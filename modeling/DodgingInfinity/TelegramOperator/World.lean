import DodgingInfinity.Library.History
import DodgingInfinity.TelegramOperator.Deliveries
import DodgingInfinity.WorkflowAuthority.Sound

/-!
# The world of the adapter

The workflow store, which others change too, and the messages that the calls created.
A call may create its message whatever it answers, unless the answer proves that it
created none.
-/

namespace DodgingInfinity.TelegramOperator

open WorkflowAuthority

/-- A message that a call created. -/
structure Shown where
  purpose : Purpose
  chatId : Nat
  text : String
  deriving DecidableEq

/-- The store, the ids it ever held, and the messages created so far. -/
structure ResultWorld where
  workflows : Workflows
  known : List String
  shown : List Shown

abbrev ResultHeard := Heard ResultQuestion ResultAnswer
abbrev ResultAsked := Asked ResultQuestion ResultAnswer ResultWorld
abbrev RememberedWorld := Remembering ResultQuestion ResultAnswer ResultWorld

/-- What the answer of a send proves. -/
def sendClass (token : String) (answer : TransportAnswer) : SendClassification :=
  (sendOnceOutcome (callStructured token answer)).classification

/-- The message a request creates, if it creates one. -/
def createdBy (purpose : Purpose) : Request → List Shown
  | .sendMessage chatId text => [⟨purpose, chatId, text⟩]
  | .editMessageText _ _ _ => []

/-! ## Others -/

section

variable [TextDigest]

/-- What others make of a record: they leave its lane, its placeholder and its delivery
alone, a planned record of the Telegram lane is at most closed, and a terminal one is
settled. -/
structure OthersChange (before after : WorkflowRecord) : Prop where
  origin : after.origin = before.origin
  chat : after.telegram.map Telegram.chatId = before.telegram.map Telegram.chatId
  target : after.target = before.target
  placeholder : after.resultPlaceholder = before.resultPlaceholder
  delivery : after.resultDelivery = before.resultDelivery
  planned : before.phase = .planned → before.origin = none →
    after.phase = .planned ∨ after.phase = .blocked
  terminal : before.phase ∈ terminalPhases → after.phase = before.phase
  verified : before.phase = .completed → after.verifiedResult = before.verifiedResult

/-- An approval: a planned record of the Telegram lane is authorized and asks for its
placeholder in the same save. -/
structure Approves (before after : WorkflowRecord) : Prop where
  origin : after.origin = before.origin
  planned : before.phase = .planned
  authorized : after.phase = .authorized
  requested : ∃ now changed, requestResultPlaceholder now before = .ok changed ∧
    after.resultPlaceholder = changed.resultPlaceholder
  delivery : after.resultDelivery = before.resultDelivery

omit [TextDigest] in
/-- An approval asks for a placeholder only where there is none. -/
theorem Approves.placeholder {before after : WorkflowRecord} (h : Approves before after) :
    after.resultPlaceholder = before.resultPlaceholder ∨
      before.resultPlaceholder = none ∧ ∃ placeholder,
        after.resultPlaceholder = some placeholder ∧ placeholder.state = .required := by
  obtain ⟨time, changed, hchanged, hrequested⟩ := h.requested
  unfold requestResultPlaceholder at hchanged
  split at hchanged
  · obtain rfl := Except.ok.inj hchanged
    exact .inl hrequested
  · rename_i hasks
    rw [not_or, not_not, not_not] at hasks
    split at hchanged
    · cases hchanged
    · obtain rfl := Except.ok.inj hchanged
      exact .inr ⟨hasks.2, _, hrequested, rfl⟩

/-- A new record: planned, with no placeholder and no delivery. -/
structure Enters (record : WorkflowRecord) : Prop where
  planned : record.phase = .planned
  placeholder : record.resultPlaceholder = none
  delivery : record.resultDelivery = none

/-- What others make of the record of one workflow, if any; an id is never used again. -/
def othersRecord (unknown : Prop) : Option WorkflowRecord → Option WorkflowRecord → Prop
  | none, none => True
  | none, some entered => unknown ∧ Enters entered
  | some _, none => True
  | some before, some after => OthersChange before after ∨
      before.origin = none ∧ Approves before after

/-- The writes of the Runtime, of an approval and of a new plan. -/
structure Others (world next : ResultWorld) : Prop where
  shown : next.shown = world.shown
  known : ∀ workflowId, workflowId ∈ world.known → workflowId ∈ next.known
  entered : ∀ workflowId, next.workflows.get? workflowId ≠ none →
    world.workflows.get? workflowId ≠ none ∨ workflowId ∈ next.known
  record : ∀ workflowId, othersRecord (workflowId ∉ world.known)
    (world.workflows.get? workflowId) (next.workflows.get? workflowId)

/-! ## Answers -/

def Answers (token : String) (world : ResultWorld) :
    (question : ResultQuestion) → ResultAnswer question → ResultWorld → Prop
  | .cycle _ change, answer, next =>
      (answer = none ∧ next = world) ∨ ∃ now, answer = some (now, world.workflows) ∧
        validateDocument world.workflows = .ok () ∧
        match change now world.workflows with
        | none => next = world
        | some changed => validateDocument changed = .ok () ∧
            next = { world with workflows := changed }
  | .call purpose request, answer, next =>
      (next = world ∧ sendClass token answer ≠ .applied) ∨
      (next = { world with shown := world.shown ++ createdBy purpose request } ∧
        sendClass token answer ≠ .definiteZero)

def resultSurroundings (token : String) :
    Surroundings ResultQuestion ResultAnswer ResultWorld where
  answers := Answers token
  drifts := Others

/-! ## Steps from one assertion to another -/

/-- One change of others, to a world that does not hear of it. -/
def Drifts (token : String) (now next : RememberedWorld) : Prop :=
  (resultSurroundings token).remembering.drifts now next

/-- What others and the mere passing of time leave true. -/
def Stable (token : String) (p : RememberedWorld → Prop) : Prop :=
  ∀ now next, p now → Drifts token now next → p next

variable {token : String} {now next : RememberedWorld} {pre : RememberedWorld → Prop}
  {allows : RememberedWorld → ResultQuestion → Prop}
  {fails : Raised → Unit → RememberedWorld → Prop}

theorem Stable.later (h : Stable token pre) (hnow : pre now)
    (hlater : (resultSurroundings token).remembering.Later now next) : pre next := by
  induction hlater with
  | refl => exact hnow
  | tail _ hlast ih => exact h _ _ ih hlast

/-- What was heard of a cycle that read the store. -/
def readBy (task : CycleTask) (change : Nat → Workflows → Option Workflows) (time : Nat)
    (workflows : Workflows) : ResultHeard :=
  ⟨.cycle task change, some (time, workflows)⟩

/-- What was heard of a cycle that could not read the store, or save it. -/
def failedBy (task : CycleTask) (change : Nat → Workflows → Option Workflows) : ResultHeard :=
  ⟨.cycle task change, none⟩

/-- One cycle, allowed wherever the precondition holds: every end of it is a
postcondition. -/
theorem triple_cycle {β : Type} {task : CycleTask} {body : Nat → Workflows → Cycled β}
    {post : Option β → RememberedWorld → Prop} (hstable : Stable token pre)
    (hallowed : ∀ now, pre now →
      allows now (.cycle task fun time workflows => (body time workflows).saved))
    (hnone : ∀ now change, pre now → post none (now.1, failedBy task change :: now.2))
    (hread : ∀ now time change, pre now →
      (body time now.1.workflows).saved = none → change time now.1.workflows = none →
        post (some (body time now.1.workflows).value)
          (now.1, readBy task change time now.1.workflows :: now.2))
    (hsaved : ∀ now time change changed, pre now →
      (body time now.1.workflows).saved = some changed →
      change time now.1.workflows = some changed → post (some (body time now.1.workflows).value)
          ({ now.1 with workflows := changed }, readBy task change time now.1.workflows :: now.2)) :
    Procedure.Triple (resultSurroundings token).remembering allows (fun _ => pre)
      (cycle task body) (fun value _ => post value) fails := by
  refine Procedure.Triple.bind (Procedure.triple_put _ ?_) fun answer =>
    Procedure.triple_pure _ fun _ _ hpost => hpost
  intro _ before now hpre hlater
  have hnow := hstable.later hpre hlater
  refine ⟨hallowed now hnow, fun answer after hanswer => ?_⟩
  obtain ⟨world, heard⟩ := after
  obtain ⟨⟨rfl, rfl⟩ | ⟨time, rfl, -, hchanged⟩, rfl⟩ := hanswer
  · exact hnone now _ hnow
  · simp only [Option.map_some]
    split at hchanged
    · rename_i hsame
      obtain rfl := hchanged
      exact hread now time _ hnow hsame hsame
    · rename_i changed hsome
      obtain ⟨-, rfl⟩ := hchanged
      exact hsaved now time _ changed hnow hsome hsome

variable {request : Request}

/-- One round trip, allowed wherever the precondition holds. -/
theorem triple_call {purpose : Purpose}
    {post : CallResult → RememberedWorld → Prop} (hstable : Stable token pre)
    (hallowed : ∀ now, pre now → allows now (.call purpose request))
    (hpost : ∀ now answer next, pre now →
      (resultSurroundings token).remembering.answers now (.call purpose request) answer
        next → post (callStructured token answer) next) :
    Procedure.Triple (resultSurroundings token).remembering allows (fun _ => pre)
      (call token purpose request) (fun value _ => post value) fails := by
  refine Procedure.Triple.bind (Procedure.triple_put _ ?_) fun answer =>
    Procedure.triple_pure _ fun _ _ h => h
  intro _ before now hpre hlater
  have hnow := hstable.later hpre hlater
  exact ⟨hallowed now hnow, fun answer after hanswer => hpost now answer after hnow hanswer⟩

/-! ## What a step may come to -/

variable {α β : Type} {asks : ResultQuestion → Prop} {world middle final : ResultWorld}

/-- The step may come to a value, with such questions alone. -/
def MayCome (token : String) (asks : ResultQuestion → Prop) (step : Act α)
    (world : ResultWorld) (value : α) (final : ResultWorld) : Prop :=
  ∃ trace : List ResultAsked, (∀ asked ∈ trace, asks asked.question) ∧
    Executes (resultSurroundings token) (step ()) world trace (.finished (.ok value, ())) final

/-- The step may be cut off, after such questions alone. -/
def MayBreak (token : String) (asks : ResultQuestion → Prop) (step : Act α)
    (world final : ResultWorld) : Prop :=
  ∃ trace : List ResultAsked, (∀ asked ∈ trace, asks asked.question) ∧
    Executes (resultSurroundings token) (step ()) world trace .cutOff final

/-- Any question. -/
def anyQuestion (_ : ResultQuestion) : Prop := True

theorem mayCome_pure (value : α) : MayCome token asks (pure value) world value world :=
  ⟨[], by simp, .done _ world⟩

variable {first : Act α} {rest : α → Act β} {value : α}

theorem MayCome.bind {result : β} (hfirst : MayCome token asks first world value middle)
    (hrest : MayCome token asks (rest value) middle result final) :
    MayCome token asks (first >>= rest) world result final := by
  obtain ⟨before, hbefore, hcomes⟩ := hfirst
  obtain ⟨after, hafter, hends⟩ := hrest
  refine ⟨before ++ after, fun asked hmem => ?_, hcomes.andThen hends⟩
  exact (List.mem_append.mp hmem).elim (hbefore asked) (hafter asked)

theorem MayCome.breaks (hfirst : MayCome token asks first world value middle)
    (hrest : MayBreak token asks (rest value) middle final) :
    MayBreak token asks (first >>= rest) world final := by
  obtain ⟨before, hbefore, hcomes⟩ := hfirst
  obtain ⟨after, hafter, hends⟩ := hrest
  refine ⟨before ++ after, fun asked hmem => ?_, hcomes.andThen hends⟩
  exact (List.mem_append.mp hmem).elim (hbefore asked) (hafter asked)

theorem MayBreak.bind (hfirst : MayBreak token asks first world final) :
    MayBreak token asks (first >>= rest) world final := by
  obtain ⟨trace, htrace, hbreaks⟩ := hfirst
  exact ⟨trace, htrace, hbreaks.andThen_cutOff⟩

/-- A step that comes to a value may be cut off right there. -/
theorem MayCome.breaksAfter (hfirst : MayCome token asks first world value final) :
    MayBreak token asks (first >>= rest) world final :=
  hfirst.breaks ⟨[], by simp, .cutOff _ final⟩

section

variable {task : CycleTask} {body : Nat → Workflows → Cycled β}
  (hasks : asks (.cycle task fun time workflows => (body time workflows).saved))

include hasks

theorem mayCome_failed : MayCome token asks (cycle task body) world none world :=
  ⟨_, by simpa using hasks, .ask (.inl ⟨rfl, rfl⟩) (.done _ world)⟩

theorem mayCome_read (time : Nat) (hvalid : validateDocument world.workflows = .ok ())
    (hsame : (body time world.workflows).saved = none) : MayCome token asks (cycle task body) world
      (some (body time world.workflows).value) world := by
  refine ⟨_, by simpa using hasks, .ask (.inr ⟨time, rfl, hvalid, ?_⟩) (.done _ world)⟩
  dsimp only
  rw [hsame]

theorem mayCome_saved (time : Nat) {changed : Workflows}
    (hvalid : validateDocument world.workflows = .ok ())
    (hsaved : (body time world.workflows).saved = some changed)
    (hchanged : validateDocument changed = .ok ()) : MayCome token asks (cycle task body) world
      (some (body time world.workflows).value) { world with workflows := changed } := by
  refine ⟨_, by simpa using hasks, .ask (.inr ⟨time, rfl, hvalid, ?_⟩)
    (.done _ { world with workflows := changed })⟩
  dsimp only
  rw [hsaved]
  exact ⟨hchanged, rfl⟩

end

theorem mayCome_sweep {swept : Workflows} (hasks : ∀ change, asks (.cycle .sweep change))
    (hvalid : validateDocument world.workflows = .ok ())
    (hsome : world.workflows.values.any isSending = true)
    (hswept : world.workflows.mapValues (fun _ => failSending) = swept)
    (hchanged : validateDocument swept = .ok ()) :
    MayCome token asks reconcileSendingPlaceholders world ()
      { world with workflows := swept } := by
  subst hswept
  refine (mayCome_saved (hasks _) 0 hvalid ?_ hchanged).bind (mayCome_pure ())
  simp [hsome]

section

variable (hcycles : ∀ task change, asks (.cycle task change))

include hcycles

theorem mayCome_sweepNone (hvalid : validateDocument world.workflows = .ok ())
    (hnone : world.workflows.values.any isSending = false) :
    MayCome token asks reconcileSendingPlaceholders world () world := by
  refine (mayCome_read (hcycles _ _) 0 hvalid ?_).bind (mayCome_pure ())
  simp [hnone]

theorem mayCome_eligible {ids : List String} (hvalid : validateDocument world.workflows = .ok ())
    (hids : chosenIds placeholderIsClaimable world.workflows = ids) :
    MayCome token asks eligiblePlaceholderWorkflowIds world ids world := by
  subst hids
  exact (mayCome_read (hcycles _ _) 0 hvalid rfl).bind (mayCome_pure _)

theorem mayCome_noneReserved (hvalid : validateDocument world.workflows = .ok ())
    (hnone : ((sortedBy Prod.fst world.workflows.entries).any fun entry =>
      isPendingResult entry.2) = false) :
    MayCome token asks reserveResults world [] world := by
  have hpending : ((sortedBy Prod.fst world.workflows.entries).filter fun entry =>
      isPendingResult entry.2) = [] := by
    simpa [List.filter_eq_nil_iff] using hnone
  have hreserve : MayCome token asks reserveResults world
      (((sortedBy Prod.fst world.workflows.entries).filter fun entry =>
        isPendingResult entry.2).map fun entry => (entry.1, reserveResult 0 entry.2)) world :=
    (mayCome_read (hcycles _ _) 0 hvalid (if_pos hpending)).bind (mayCome_pure _)
  rw [hpending] at hreserve
  exact hreserve

theorem mayCome_claim (time : Nat) {workflowId : String} {changed : Workflows}
    {claim : Option PlaceholderClaim} (hvalid : validateDocument world.workflows = .ok ())
    (hclaim : changeOne workflowId none (claimPlaceholder workflowId time) world.workflows =
      ⟨some changed, claim⟩) (hchanged : validateDocument changed = .ok ()) :
    MayCome token asks (claimOnePlaceholder workflowId) world claim
      { world with workflows := changed } := by
  have hcycle : MayCome token asks (cycle (.claimPlaceholder workflowId) fun now =>
      changeOne workflowId none (claimPlaceholder workflowId now)) world
      (some (changeOne workflowId none (claimPlaceholder workflowId time)
        world.workflows).value) { world with workflows := changed } :=
    mayCome_saved (hcycles _ _) time hvalid (congrArg Cycled.saved hclaim) hchanged
  rw [hclaim] at hcycle
  exact hcycle.bind (mayCome_pure claim)

theorem mayCome_unrecorded (workflowId digest : String) (outcome : SendOnceOutcome) :
    MayCome token asks (recordPlaceholderOutcome workflowId digest outcome) world false
      world :=
  (mayCome_failed (hcycles _ _)).bind (mayCome_pure false)

theorem mayCome_recorded (time : Nat) {workflowId digest : String}
    {outcome : SendOnceOutcome} {changed : Workflows}
    (hvalid : validateDocument world.workflows = .ok ())
    (hrecord : changeOne workflowId true (recordPlaceholder digest outcome time)
      world.workflows = ⟨some changed, true⟩) (hchanged : validateDocument changed = .ok ()) :
    MayCome token asks (recordPlaceholderOutcome workflowId digest outcome) world true
      { world with workflows := changed } := by
  have hcycle : MayCome token asks (cycle (.recordPlaceholder workflowId) fun now =>
      changeOne workflowId true (recordPlaceholder digest outcome now)) world
      (some (changeOne workflowId true (recordPlaceholder digest outcome time)
        world.workflows).value) { world with workflows := changed } :=
    mayCome_saved (hcycles _ _) time hvalid (congrArg Cycled.saved hrecord) hchanged
  rw [hrecord] at hcycle
  exact hcycle.bind (mayCome_pure true)

end

theorem mayCome_shown {purpose : Purpose}
    (hasks : asks (.call purpose request)) (answer : TransportAnswer)
    (hclass : sendClass token answer ≠ .definiteZero) :
    MayCome token asks (call token purpose request) world (callStructured token answer)
      { world with shown := world.shown ++ createdBy purpose request } :=
  ⟨_, by simpa using hasks, .ask (.inr ⟨rfl, hclass⟩) (.done _ _)⟩

theorem mayCome_unshown {purpose : Purpose}
    (hasks : asks (.call purpose request)) (answer : TransportAnswer)
    (hclass : sendClass token answer ≠ .applied) :
    MayCome token asks (call token purpose request) world (callStructured token answer)
      world :=
  ⟨_, by simpa using hasks, .ask (.inl ⟨rfl, hclass⟩) (.done _ world)⟩

end

/-! ## Two records -/

def firstPlaceholderDigest : HexDigest :=
  ⟨"18849abc97751613eab1b09fad0fbd58ead25b1144af961499be2f63d1f6a805", by decide +kernel⟩

def secondPlaceholderDigest : HexDigest :=
  ⟨"6119f981cf5af1e43130252713d806cb4496678d8a5063cadf9a6f6106dfcce7", by decide +kernel⟩

/-- The digests of the texts of two placeholders. -/
def placeholderDigests (text : String) : HexDigest :=
  if text = renderPlaceholderText "w-1" then firstPlaceholderDigest
  else secondPlaceholderDigest

abbrev sampleTexts : TextDigest := sampleDigest placeholderDigests

abbrev sampleWording : Wording := ⟨fun _ => "The edit was refused."⟩

abbrev sampleFolding : Casefolding := ⟨String.toLower⟩

/-- A record that is authorized, with its placeholder. -/
def approvedWith (record : WorkflowRecord) (placeholder : ResultPlaceholder) : WorkflowRecord :=
  { record with phase := .authorized, resultPlaceholder := some placeholder }

def requiredPlaceholder : ResultPlaceholder := ⟨.required, 2, none, 0, none, none, none⟩

/-- A placeholder that was sent, with no message bound. -/
def sentPlaceholder (state : PlaceholderState) (digest : HexDigest) : ResultPlaceholder :=
  ⟨state, 2, none, 0, some 1, none, some digest.val⟩

def twoApproved (first second : ResultPlaceholder) : Workflows :=
  (Dict.empty.set "w-1" (approvedWith firstRecord first)).set "w-2"
    (approvedWith secondRecord second)

abbrev firstSending : ResultPlaceholder :=
  sentPlaceholder .sending firstPlaceholderDigest

abbrev secondSending : ResultPlaceholder :=
  sentPlaceholder .sending secondPlaceholderDigest

/-- A world that holds such records, with nothing shown yet. -/
def holding (workflows : Workflows) : ResultWorld := ⟨workflows, ["w-1", "w-2"], []⟩

theorem sound_firstApproved {placeholder : ResultPlaceholder}
    (hstate : ∀ location, @validateState sampleTexts (approvedWith firstRecord placeholder)
      location = .ok ()) :
    @Sound sampleTexts "w-1" (approvedWith firstRecord placeholder) := by
  let _ := sampleTexts
  exact (sound_firstRecord placeholderDigests).restated
    ⟨rfl, rfl, rfl, rfl, rfl, rfl, rfl, rfl, rfl, rfl, rfl⟩ rfl (hstate _)

theorem sound_secondApproved {placeholder : ResultPlaceholder}
    (hstate : ∀ location, @validateState sampleTexts (approvedWith secondRecord placeholder)
      location = .ok ()) :
    @Sound sampleTexts "w-2" (approvedWith secondRecord placeholder) := by
  let _ := sampleTexts
  exact (sound_secondRecord placeholderDigests).restated
    ⟨rfl, rfl, rfl, rfl, rfl, rfl, rfl, rfl, rfl, rfl, rfl⟩ rfl (hstate _)

theorem renderPlaceholderText_ne_sampleText (workflowId other : String) :
    renderPlaceholderText workflowId ≠ sampleText other := by
  obtain ⟨rest, hrest⟩ := sampleText_eq_append other
  have hfirst : placeholderMessageHeader.toList.head? = some 'M' := by decide +kernel
  have hsecond : "workflow: ".toList.head? = some 'w' := by decide +kernel
  rw [hrest]
  simp only [renderPlaceholderText, String.append_assoc]
  exact append_ne_append hfirst hsecond (by decide) _ _

theorem renderPlaceholderText_ne_sampleWords (workflowId : String) :
    renderPlaceholderText workflowId ≠ sampleWords := by
  have hfirst : placeholderMessageHeader.toList.head? = some 'M' := by decide +kernel
  have hsecond : sampleWords.toList.head? = some 'f' := by decide +kernel
  have hwords : sampleWords = sampleWords ++ "" := by rw [String.append_empty]
  rw [hwords]
  simp only [renderPlaceholderText, String.append_assoc]
  exact append_ne_append hfirst hsecond (by decide) _ _

theorem renderPlaceholderText_second_ne_first :
    renderPlaceholderText "w-2" ≠ renderPlaceholderText "w-1" := by
  intro h
  have hchars := congrArg String.toList h
  simp only [renderPlaceholderText, String.toList_append, List.append_assoc,
    List.append_cancel_left_eq] at hchars
  exact absurd (List.append_cancel_right hchars) (by decide +kernel)

/-- The digests of the two placeholders. -/
theorem digest_firstPlaceholder :
    @textDigest sampleTexts (renderPlaceholderText "w-1") = firstPlaceholderDigest.val := by
  change (sampleDigestOf placeholderDigests (renderPlaceholderText "w-1")).val = _
  unfold sampleDigestOf placeholderDigests
  rw [if_neg (renderPlaceholderText_ne_sampleWords _),
    if_neg (renderPlaceholderText_ne_sampleText _ _),
    if_neg (renderPlaceholderText_ne_sampleText _ _), if_pos rfl]

theorem digest_secondPlaceholder :
    @textDigest sampleTexts (renderPlaceholderText "w-2") = secondPlaceholderDigest.val := by
  change (sampleDigestOf placeholderDigests (renderPlaceholderText "w-2")).val = _
  unfold sampleDigestOf placeholderDigests
  rw [if_neg (renderPlaceholderText_ne_sampleWords _),
    if_neg (renderPlaceholderText_ne_sampleText _ _),
    if_neg (renderPlaceholderText_ne_sampleText _ _), if_neg renderPlaceholderText_second_ne_first]

abbrev firstClaim : PlaceholderClaim :=
  ⟨2, renderPlaceholderText "w-1", firstPlaceholderDigest.val⟩

abbrev secondClaim : PlaceholderClaim :=
  ⟨2, renderPlaceholderText "w-2", secondPlaceholderDigest.val⟩

theorem claimPlaceholder_first :
    @claimPlaceholder sampleTexts "w-1" 1 (approvedWith firstRecord requiredPlaceholder) =
      some (approvedWith firstRecord firstSending, some firstClaim) := by
  refine (@claimPlaceholder_eq_some sampleTexts _ _ _ _ _).mpr
    ⟨requiredPlaceholder, rfl, .inl rfl, ?_, ?_⟩ <;> rw [digest_firstPlaceholder] <;> rfl

theorem claimPlaceholder_second :
    @claimPlaceholder sampleTexts "w-2" 1 (approvedWith secondRecord requiredPlaceholder) =
      some (approvedWith secondRecord secondSending, some secondClaim) := by
  refine (@claimPlaceholder_eq_some sampleTexts _ _ _ _ _).mpr
    ⟨requiredPlaceholder, rfl, .inl rfl, ?_, ?_⟩ <;> rw [digest_secondPlaceholder] <;> rfl

theorem fits_firstClaim : ¬ (fullText firstClaim.text).length > maxMessageChars := by
  decide +kernel

end DodgingInfinity.TelegramOperator
