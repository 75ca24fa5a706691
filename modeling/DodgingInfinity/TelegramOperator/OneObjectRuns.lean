import DodgingInfinity.TelegramOperator.World

/-!
# One object for each result

What the record of a workflow and the calls made for it have to do with each other.  A
placeholder is sent at most once but for sends that provably created nothing, so that
its binding, once recorded, is the one message of the workflow.
-/

namespace DodgingInfinity.TelegramOperator

open WorkflowAuthority

/-! ## What was heard -/

/-- Whether a call for the placeholder of a workflow may have created its message. -/
def mayHaveSent (token workflowId : String) :
    (question : ResultQuestion) → ResultAnswer question → Bool
  | .call (.placeholder named) _, answer =>
      decide (named = workflowId ∧ sendClass token answer ≠ .definiteZero)
  | .call (.edit _) _, _ | .call (.result _ _) _, _ | .cycle _ _, _ => false

/-- How many calls may have created a placeholder of a workflow. -/
def sends (token workflowId : String) (history : List ResultHeard) : Nat :=
  history.countP fun heard => mayHaveSent token workflowId heard.1 heard.2

/-- The placeholder call that was answered with a message id. -/
def AppliedAs (token workflowId : String) (chatId messageId : Nat)
    (history : List ResultHeard) : Prop :=
  ∃ answer : TransportAnswer, (⟨.call (.placeholder workflowId)
      (.sendMessage chatId (fullText (renderPlaceholderText workflowId))), answer⟩ :
        ResultHeard) ∈ history ∧
    sendOnceOutcome (callStructured token answer) = ⟨.applied, some messageId⟩

variable [Casefolding]

/-- The edit call with a text that was answered as applied, or as already applied. -/
def Edited (token workflowId : String) (chatId messageId : Nat) (text : String)
    (history : List ResultHeard) : Prop :=
  ∃ answer : TransportAnswer,
    (⟨.call (.edit workflowId) (.editMessageText chatId (some messageId) (fullText text)),
      answer⟩ : ResultHeard) ∈ history ∧ ((callStructured token answer).settled.problem = none ∨
      isMessageNotModified (callStructured token answer).detail = true)

/-- A question over the store, which says nothing of the calls. -/
def IsCycle (heard : ResultHeard) : Prop :=
  ∃ task change, heard.1 = .cycle task change

omit [Casefolding] in
theorem sends_cons (token workflowId : String) (heard : ResultHeard) (history : List ResultHeard) :
    sends token workflowId (heard :: history) = sends token workflowId history +
        if mayHaveSent token workflowId heard.1 heard.2 then 1 else 0 :=
  List.countP_cons ..

omit [Casefolding] in
theorem IsCycle.sends {heard : ResultHeard} (h : IsCycle heard) (token workflowId : String)
    (history : List ResultHeard) :
    sends token workflowId (heard :: history) = sends token workflowId history := by
  obtain ⟨question, answer⟩ := heard
  obtain ⟨task, change, rfl⟩ := h
  rw [sends_cons]
  rfl

omit [Casefolding] in
theorem AppliedAs.cons {token workflowId : String} {chatId messageId : Nat}
    {history : List ResultHeard} (h : AppliedAs token workflowId chatId messageId history)
    (heard : ResultHeard) :
    AppliedAs token workflowId chatId messageId (heard :: history) := by
  obtain ⟨answer, hmem, happlied⟩ := h
  exact ⟨answer, List.mem_cons_of_mem _ hmem, happlied⟩

theorem Edited.cons {token workflowId text : String} {chatId messageId : Nat}
    {history : List ResultHeard}
    (h : Edited token workflowId chatId messageId text history) (heard : ResultHeard) :
    Edited token workflowId chatId messageId text (heard :: history) := by
  obtain ⟨answer, hmem, hedited⟩ := h
  exact ⟨answer, List.mem_cons_of_mem _ hmem, hedited⟩

/-! ## The record of a workflow -/

/-- A completed record, bound to a message, whose result is a text. -/
structure Presents (entry : WorkflowRecord) (chatId messageId : Nat) (text : String) :
    Prop where
  completed : entry.phase = .completed
  verified : ∃ verified, entry.verifiedResult = some verified ∧
    text = renderResultText entry verified
  bound : ∃ placeholder, entry.resultPlaceholder = some placeholder ∧
    placeholder.state = .bound ∧ placeholder.chatId = chatId ∧
    placeholder.messageId = some messageId

variable [TextDigest]

/-- What a record says of the calls made for it. -/
structure Lane (token workflowId : String) (history : List ResultHeard)
    (entry : WorkflowRecord) : Prop where
  unasked : entry.resultPlaceholder = none → sends token workflowId history = 0 ∧
    entry.resultDelivery = none ∧
    (entry.origin = none → entry.phase = .planned ∨ entry.phase = .blocked)
  unsent : ∀ placeholder, entry.resultPlaceholder = some placeholder →
    placeholder.state = .required ∨ placeholder.state = .failedUnsent →
      sends token workflowId history = 0
  bound : ∀ placeholder, entry.resultPlaceholder = some placeholder →
    placeholder.state = .bound → ∃ messageId, placeholder.messageId = some messageId ∧
      AppliedAs token workflowId placeholder.chatId messageId history
  delivered : ∀ delivery, entry.resultDelivery = some delivery →
    delivery.state = .deliveredByEdit → ∃ chatId messageId text,
      Presents entry chatId messageId text ∧ delivery.editedMessageId = some messageId ∧
      delivery.renderedDigest = some (textDigest text) ∧
      Edited token workflowId chatId messageId text history

/-- A message of the placeholder of a workflow. -/
def isPlaceholderOf (workflowId : String) (shown : Shown) : Bool :=
  shown.purpose = .placeholder workflowId

/-- The world and the calls heard so far, for one workflow. -/
structure OneObject (token workflowId : String) (now : RememberedWorld) : Prop where
  once : sends token workflowId now.2 ≤ 1
  shown : now.1.shown.countP (isPlaceholderOf workflowId) ≤ sends token workflowId now.2
  held : now.1.workflows.get? workflowId ≠ none → workflowId ∈ now.1.known
  fresh : workflowId ∉ now.1.known → sends token workflowId now.2 = 0
  lane : ∀ entry, now.1.workflows.get? workflowId = some entry → Lane token workflowId now.2 entry

/-- What is final in a record stays: a binding, a placeholder given up, and a delivery
given up. -/
structure Lasts (before after : WorkflowRecord) : Prop where
  placeholder : ∀ placeholder, before.resultPlaceholder = some placeholder →
    placeholder.state = .bound ∨ placeholder.state = .indefinite ∨ placeholder.state = .unbindable →
    after.resultPlaceholder = some placeholder
  delivery : ∀ delivery, before.resultDelivery = some delivery →
    delivery.state = .degradedUnbindable → after.resultDelivery = some delivery

omit [Casefolding] [TextDigest] in
theorem Lasts.refl (entry : WorkflowRecord) : Lasts entry entry :=
  ⟨fun _ h _ => h, fun _ h _ => h⟩

omit [Casefolding] [TextDigest] in
theorem Lasts.trans {first second third : WorkflowRecord} (h : Lasts first second)
    (hnext : Lasts second third) : Lasts first third where
  placeholder placeholder hheld hfinal :=
    hnext.placeholder placeholder (h.placeholder placeholder hheld hfinal) hfinal
  delivery delivery hheld hfinal :=
    hnext.delivery delivery (h.delivery delivery hheld hfinal) hfinal

/-- What a save makes of the record of a workflow. -/
def Kept (token workflowId : String) (history : List ResultHeard)
    (before after : Workflows) : Prop :=
  match before.get? workflowId, after.get? workflowId with
  | none, none => True
  | some entry, some changed => Lane token workflowId history changed ∧ Lasts entry changed
  | none, some _ | some _, none => False

section

variable {token workflowId : String} {history : List ResultHeard}
  {entry after : WorkflowRecord} {now next : RememberedWorld}

theorem Lane.cons (h : Lane token workflowId history entry) {heard : ResultHeard}
    (hsends : sends token workflowId (heard :: history) = sends token workflowId history) :
    Lane token workflowId (heard :: history) entry where
  unasked hnone := by
    rw [hsends]
    exact h.unasked hnone
  unsent placeholder hheld hstate := by
    rw [hsends]
    exact h.unsent placeholder hheld hstate
  bound placeholder hheld hstate := by
    obtain ⟨messageId, hmessage, happlied⟩ := h.bound placeholder hheld hstate
    exact ⟨messageId, hmessage, happlied.cons heard⟩
  delivered delivery hheld hstate := by
    obtain ⟨chatId, messageId, text, hpresents, hedited, hdigest, hcall⟩ :=
      h.delivered delivery hheld hstate
    exact ⟨chatId, messageId, text, hpresents, hedited, hdigest, hcall.cons heard⟩

omit [Casefolding] [TextDigest] in
theorem Presents.others {chatId messageId : Nat} {text : String}
    (h : Presents entry chatId messageId text) (hothers : OthersChange entry after) :
    Presents after chatId messageId text where
  completed := by
    rw [hothers.terminal (by simp [h.completed, terminalPhases]), h.completed]
  verified := by
    obtain ⟨verified, hverified, rfl⟩ := h.verified
    refine ⟨verified, by rw [hothers.verified h.completed, hverified], ?_⟩
    simp only [renderResultText, renderTargetLine, hothers.target]
  bound := by
    rw [hothers.placeholder]
    exact h.bound

/-! ## What others leave -/

theorem Lane.others (h : Lane token workflowId history entry)
    (hothers : OthersChange entry after) : Lane token workflowId history after where
  unasked hnone := by
    rw [hothers.placeholder] at hnone
    obtain ⟨hsends, hdelivery, hphase⟩ := h.unasked hnone
    refine ⟨hsends, by rw [hothers.delivery, hdelivery], fun horigin => ?_⟩
    rw [hothers.origin] at horigin
    rcases hphase horigin with hplanned | hblocked
    · exact hothers.planned hplanned horigin
    · right
      rw [hothers.terminal (by simp [hblocked, terminalPhases]), hblocked]
  unsent placeholder hheld := by
    rw [hothers.placeholder] at hheld
    exact h.unsent placeholder hheld
  bound placeholder hheld := by
    rw [hothers.placeholder] at hheld
    exact h.bound placeholder hheld
  delivered delivery hheld hstate := by
    rw [hothers.delivery] at hheld
    obtain ⟨chatId, messageId, text, hpresents, hrest⟩ := h.delivered delivery hheld hstate
    exact ⟨chatId, messageId, text, hpresents.others hothers, hrest⟩

theorem Lane.approves (h : Lane token workflowId history entry)
    (happroves : Approves entry after) : Lane token workflowId history after := by
  have hdelivered : ∀ delivery, after.resultDelivery = some delivery →
      delivery.state = .deliveredByEdit → False := by
    intro delivery hheld hstate
    rw [happroves.delivery] at hheld
    obtain ⟨_, _, _, hpresents, -⟩ := h.delivered delivery hheld hstate
    have hcompleted := hpresents.completed
    rw [happroves.planned] at hcompleted
    cases hcompleted
  rcases happroves.placeholder with hsame | ⟨hnone, placeholder, hrequired, hstate⟩
  · constructor
    · intro hnone
      rw [hsame] at hnone
      obtain ⟨hsends, hdelivery, hphase⟩ := h.unasked hnone
      obtain ⟨time, changed, hchanged, hrequested⟩ := happroves.requested
      refine ⟨hsends, by rw [happroves.delivery, hdelivery], fun horigin => ?_⟩
      rw [happroves.origin] at horigin
      unfold requestResultPlaceholder at hchanged
      rw [if_neg (by simp [horigin, hnone])] at hchanged
      split at hchanged
      · cases hchanged
      · obtain rfl := Except.ok.inj hchanged
        rw [hsame, hnone] at hrequested
        cases hrequested
    · intro placeholder hheld
      rw [hsame] at hheld
      exact h.unsent placeholder hheld
    · intro placeholder hheld
      rw [hsame] at hheld
      exact h.bound placeholder hheld
    · intro delivery hheld hstate
      exact (hdelivered delivery hheld hstate).elim
  · constructor
    · intro hasked
      rw [hrequired] at hasked
      cases hasked
    · intro _ _ _
      exact (h.unasked hnone).1
    · intro held hheld hbound
      obtain rfl := Option.some.inj (hrequired.symm.trans hheld)
      rw [hstate] at hbound
      cases hbound
    · intro delivery hheld hstate
      exact (hdelivered delivery hheld hstate).elim

omit [Casefolding] [TextDigest] in
theorem OthersChange.lasts (h : OthersChange entry after) : Lasts entry after where
  placeholder placeholder hheld _ := by rw [h.placeholder, hheld]
  delivery delivery hheld _ := by rw [h.delivery, hheld]

omit [Casefolding] [TextDigest] in
theorem Approves.lasts (h : Approves entry after) : Lasts entry after where
  placeholder placeholder hheld _ := by
    rcases h.placeholder with hsame | ⟨hnone, -⟩
    · rw [hsame, hheld]
    · rw [hheld] at hnone
      cases hnone
  delivery delivery hheld _ := by rw [h.delivery, hheld]

theorem Enters.lane (h : Enters entry) (hsends : sends token workflowId history = 0) :
    Lane token workflowId history entry where
  unasked _ := ⟨hsends, h.delivery, fun _ => .inl h.planned⟩
  unsent _ _ _ := hsends
  bound placeholder hheld := by
    rw [h.placeholder] at hheld
    cases hheld
  delivered delivery hheld := by
    rw [h.delivery] at hheld
    cases hheld

theorem OneObject.drifts (h : OneObject token workflowId now)
    (hdrift : Drifts token now next) : OneObject token workflowId next := by
  obtain ⟨hothers, hhistory⟩ := hdrift
  have hrecord := hothers.record workflowId
  constructor
  · rw [hhistory]
    exact h.once
  · rw [hhistory, hothers.shown]
    exact h.shown
  · intro hheld
    rcases hothers.entered workflowId hheld with hbefore | hknown
    · exact hothers.known workflowId (h.held hbefore)
    · exact hknown
  · intro hunknown
    rw [hhistory]
    exact h.fresh fun hknown => hunknown (hothers.known workflowId hknown)
  · intro entry hheld
    rw [hhistory]
    rw [hheld] at hrecord
    cases hbefore : now.1.workflows.get? workflowId with
    | none =>
        rw [hbefore] at hrecord
        exact hrecord.2.lane (h.fresh hrecord.1)
    | some before =>
        rw [hbefore] at hrecord
        have hlane := h.lane before hbefore
        rcases hrecord with hchange | ⟨-, happroves⟩
        · exact hlane.others hchange
        · exact hlane.approves happroves

/-! ## What lasts -/

/-- A record that was held is gone for good, or what is final in it stays. -/
structure LastsIn (workflowId : String) (before after : ResultWorld) : Prop where
  known : workflowId ∈ before.known → workflowId ∈ after.known
  gone : workflowId ∈ before.known → before.workflows.get? workflowId = none →
    after.workflows.get? workflowId = none
  record : ∀ entry, before.workflows.get? workflowId = some entry →
    workflowId ∈ after.known ∧ ∀ changed,
      after.workflows.get? workflowId = some changed → Lasts entry changed

omit [Casefolding] [TextDigest] in
theorem LastsIn.trans {first second third : ResultWorld}
    (h : LastsIn workflowId first second) (hnext : LastsIn workflowId second third) :
    LastsIn workflowId first third where
  known hknown := hnext.known (h.known hknown)
  gone hknown hnone := hnext.gone (h.known hknown) (h.gone hknown hnone)
  record entry hheld := by
    obtain ⟨hknown, hlasts⟩ := h.record entry hheld
    refine ⟨hnext.known hknown, fun changed hchanged => ?_⟩
    cases hmiddle : second.workflows.get? workflowId with
    | none =>
        rw [hnext.gone hknown hmiddle] at hchanged
        cases hchanged
    | some middle =>
        exact (hlasts middle hmiddle).trans ((hnext.record middle hmiddle).2 changed hchanged)

theorem OneObject.lastsIn_refl (h : OneObject token workflowId now) :
    LastsIn workflowId now.1 now.1 where
  known hknown := hknown
  gone _ hnone := hnone
  record entry hheld := by
    refine ⟨h.held (by simp [hheld]), fun changed hchanged => ?_⟩
    obtain rfl := Option.some.inj (hheld.symm.trans hchanged)
    exact Lasts.refl entry

theorem OneObject.lastsIn_drifts (h : OneObject token workflowId now)
    (hdrift : Drifts token now next) : LastsIn workflowId now.1 next.1 := by
  obtain ⟨hothers, -⟩ := hdrift
  have hrecord := hothers.record workflowId
  constructor
  · exact hothers.known workflowId
  · intro hknown hnone
    cases hafter : next.1.workflows.get? workflowId with
    | none => rfl
    | some entered =>
        rw [hnone, hafter] at hrecord
        exact absurd hknown hrecord.1
  · intro entry hheld
    refine ⟨hothers.known workflowId (h.held (by simp [hheld])), fun changed hchanged => ?_⟩
    rw [hheld, hchanged] at hrecord
    rcases hrecord with hchange | ⟨-, happroves⟩
    · exact hchange.lasts
    · exact happroves.lasts

/-! ## Assertions -/

theorem stable_oneObject : Stable token (OneObject token workflowId) :=
  fun _ _ h hdrift => h.drifts hdrift

/-- The workflow is known, and its record, while it is held, is as said. -/
structure While (token workflowId : String) (p : WorkflowRecord → Prop)
    (now : RememberedWorld) : Prop where
  object : OneObject token workflowId now
  known : workflowId ∈ now.1.known
  entry : ∀ entry, now.1.workflows.get? workflowId = some entry → p entry

/-- A property of a record that others leave. -/
structure Survives (p : WorkflowRecord → Prop) : Prop where
  others : ∀ before after, p before → OthersChange before after → p after
  approves : ∀ before after, p before → before.origin = none → Approves before after → p after

theorem Survives.stable {p : WorkflowRecord → Prop} (h : Survives p) :
    Stable token (While token workflowId p) := by
  intro now next hnow hdrift
  refine ⟨hnow.object.drifts hdrift, hdrift.1.known workflowId hnow.known, ?_⟩
  intro entry hheld
  have hrecord := hdrift.1.record workflowId
  rw [hheld] at hrecord
  cases hbefore : now.1.workflows.get? workflowId with
  | none =>
      rw [hbefore] at hrecord
      exact absurd hnow.known hrecord.1
  | some before =>
      rw [hbefore] at hrecord
      rcases hrecord with hchange | ⟨horigin, happroves⟩
      · exact h.others before entry (hnow.entry before hbefore) hchange
      · exact h.approves before entry (hnow.entry before hbefore) horigin happroves

end

end DodgingInfinity.TelegramOperator

/-!
## One object in every run

Every pass asks only what the record of a workflow and the calls heard so far allow, so
that what they have to do with each other holds over every run.
-/

namespace DodgingInfinity.TelegramOperator

open WorkflowAuthority

variable [Casefolding] [TextDigest] {token workflowId named : String}
  {history : List ResultHeard} {now next : RememberedWorld} {entry : WorkflowRecord}
  {chatId messageId : Nat} {text : String}

/-! ## What is allowed -/

/-- A cycle read the record when it presented the text. -/
def Read (workflowId : String) (chatId messageId : Nat) (text : String)
    (history : List ResultHeard) : Prop :=
  ∃ task change time workflows entry,
    (⟨.cycle task change, some (time, workflows)⟩ : ResultHeard) ∈ history ∧
    workflows.get? workflowId = some entry ∧ Presents entry chatId messageId text

/-- A record whose placeholder is in flight, in its chat. -/
def InFlight (chatId : Nat) (entry : WorkflowRecord) : Prop :=
  ∃ placeholder, entry.resultPlaceholder = some placeholder ∧
    placeholder.state = .sending ∧ placeholder.chatId = chatId

/-- What may be asked of the world, as far as one workflow goes. -/
def Allows (token workflowId : String) (now : RememberedWorld) : ResultQuestion → Prop
  | .cycle _ change => ∀ time changed, validateDocument now.1.workflows = .ok () →
      change time now.1.workflows = some changed →
        Kept token workflowId now.2 now.1.workflows changed
  | .call (.placeholder named) request => named = workflowId →
      sends token workflowId now.2 = 0 ∧ ∃ chatId,
        request = .sendMessage chatId (fullText (renderPlaceholderText workflowId)) ∧
        While token workflowId (InFlight chatId) now
  | .call (.edit named) request => named = workflowId → ∃ chatId messageId text,
      request = .editMessageText chatId (some messageId) (fullText text) ∧
      Read workflowId chatId messageId text now.2 ∧
      While token workflowId (Presents · chatId messageId text) now
  | .call (.result named _) _ => named ≠ workflowId

omit [Casefolding] [TextDigest] in
theorem survives_inFlight : Survives (InFlight chatId) where
  others before after := by
    rintro ⟨placeholder, hheld, hrest⟩ hchange
    exact ⟨placeholder, hchange.placeholder.trans hheld, hrest⟩
  approves before after := by
    rintro ⟨placeholder, hheld, hrest⟩ - happroves
    rcases happroves.placeholder with hsame | ⟨hnone, -⟩
    · exact ⟨placeholder, hsame.trans hheld, hrest⟩
    · rw [hheld] at hnone
      cases hnone

omit [Casefolding] [TextDigest] in
theorem survives_presents : Survives (Presents · chatId messageId text) where
  others before after h hchange := h.others hchange
  approves before after h _ happroves := by
    have hcompleted := h.completed
    rw [happroves.planned] at hcompleted
    cases hcompleted

variable {changed : Workflows}

/-- A change that keeps the record leaves the world as it should be. -/
theorem OneObject.saved (h : OneObject token workflowId now) {heard : ResultHeard}
    (hcycle : IsCycle heard)
    (hkept : Kept token workflowId now.2 now.1.workflows changed) :
    OneObject token workflowId ({ now.1 with workflows := changed }, heard :: now.2) ∧
      LastsIn workflowId now.1 { now.1 with workflows := changed } := by
  have hsends := hcycle.sends token workflowId now.2
  unfold Kept at hkept
  have hheld : changed.get? workflowId ≠ none → now.1.workflows.get? workflowId ≠ none := by
    intro hafter hbefore
    rw [hbefore] at hkept
    split at hkept <;> simp_all
  constructor
  · refine ⟨by rw [hsends]; exact h.once, by rw [hsends]; exact h.shown,
      fun hafter => h.held (hheld hafter), fun hunknown => by rw [hsends]; exact h.fresh hunknown,
      fun entry hentry => ?_⟩
    obtain ⟨before, hbefore⟩ := Option.ne_none_iff_exists'.mp (hheld (by simp [hentry]))
    simp only [hbefore, hentry] at hkept
    exact hkept.1.cons hsends
  · refine ⟨id, fun _ hnone => ?_, fun entry hentry => ⟨h.held (by simp [hentry]), ?_⟩⟩
    · by_contra hafter
      exact hheld hafter hnone
    · intro after hafter
      simp only [hentry, hafter] at hkept
      exact hkept.2

theorem OneObject.heard (h : OneObject token workflowId now) {heard : ResultHeard}
    (hsends : sends token workflowId (heard :: now.2) = sends token workflowId now.2) :
    OneObject token workflowId (now.1, heard :: now.2) where
  once := by
    rw [hsends]
    exact h.once
  shown := by
    rw [hsends]
    exact h.shown
  held := h.held
  fresh hunknown := by
    rw [hsends]
    exact h.fresh hunknown
  lane entry hheld := (h.lane entry hheld).cons hsends

/-! ## What an answer leaves -/

variable {request : Request} {answer : TransportAnswer}

variable {purpose : Purpose}

omit [Casefolding] in
theorem answer_once
    (hanswer : (resultSurroundings token).remembering.answers now (.call purpose request)
      answer next) : next.2 = ⟨.call purpose request, answer⟩ :: now.2 ∧
      next.1.workflows = now.1.workflows ∧ next.1.known = now.1.known ∧
      (next.1.shown = now.1.shown ∨ next.1.shown = now.1.shown ++ createdBy purpose request ∧
          sendClass token answer ≠ .definiteZero) := by
  obtain ⟨⟨hnext, -⟩ | ⟨hnext, hclass⟩, hhistory⟩ := hanswer
  · rw [hnext]
    exact ⟨hhistory, rfl, rfl, .inl rfl⟩
  · rw [hnext]
    exact ⟨hhistory, rfl, rfl, .inr ⟨rfl, hclass⟩⟩

omit [Casefolding] [TextDigest] in
/-- What a call creates is a placeholder of the workflow only when it was made for
one. -/
theorem countP_createdBy (purpose : Purpose) (request : Request) (workflowId : String) :
    (createdBy purpose request).countP (isPlaceholderOf workflowId) ≤
      if purpose = .placeholder workflowId then 1 else 0 := by
  cases request with
  | sendMessage chatId text =>
      simp [createdBy, List.countP_cons, isPlaceholderOf]
  | editMessageText _ _ _ => simp [createdBy]

/-- A call for the placeholder of a workflow that nothing was sent for. -/
theorem OneObject.sent
    (h : OneObject token workflowId now) (hunsent : sends token workflowId now.2 = 0)
    (hwhile : While token workflowId (InFlight chatId) now)
    (hanswer : (resultSurroundings token).remembering.answers now
      (.call (.placeholder workflowId) request) answer next) :
    OneObject token workflowId next ∧ LastsIn workflowId now.1 next.1 := by
  obtain ⟨hhistory, hworkflows, hknown, hshown⟩ := answer_once hanswer
  have hsends : sends token workflowId next.2 =
      if sendClass token answer ≠ .definiteZero then 1 else 0 := by
    rw [hhistory, sends_cons, hunsent]
    simp [mayHaveSent]
  constructor
  · constructor
    · rw [hsends]
      split <;> omega
    · have hcreated := countP_createdBy (.placeholder workflowId) request workflowId
      have hbefore := h.shown
      rw [if_pos rfl] at hcreated
      rw [hsends]
      rcases hshown with hsame | ⟨hmore, hclass⟩
      · rw [hsame]
        omega
      · rw [hmore, List.countP_append, if_pos hclass]
        omega
    · rw [hworkflows, hknown]
      exact h.held
    · rw [hknown]
      exact fun hunknown => absurd hwhile.known hunknown
    · rw [hworkflows]
      intro entry hheld
      obtain ⟨placeholder, hplaceholder, hstate, -⟩ := hwhile.entry entry hheld
      have hlane := h.lane entry hheld
      constructor
      · intro hnone
        rw [hplaceholder] at hnone
        cases hnone
      · intro held hrequired hunsentState
        obtain rfl := Option.some.inj (hplaceholder.symm.trans hrequired)
        rcases hunsentState with hother | hother <;> rw [hstate] at hother <;> cases hother
      · intro held hbound hother
        obtain rfl := Option.some.inj (hplaceholder.symm.trans hbound)
        rw [hstate] at hother
        cases hother
      · intro delivery hdelivery hdelivered
        obtain ⟨_, _, _, hpresents, -⟩ := hlane.delivered delivery hdelivery hdelivered
        obtain ⟨held, hbound, hother, -⟩ := hpresents.bound
        obtain rfl := Option.some.inj (hplaceholder.symm.trans hbound)
        rw [hstate] at hother
        cases hother
  · have hlasts := h.lastsIn_refl
    exact ⟨by rw [hknown]; exact hlasts.known, by rw [hworkflows]; exact hlasts.gone,
      by rw [hworkflows, hknown]; exact hlasts.record⟩

/-- A call that is not for the placeholder of the workflow. -/
theorem OneObject.called
    (h : OneObject token workflowId now) (hpurpose : purpose ≠ .placeholder workflowId)
    (hanswer : (resultSurroundings token).remembering.answers now
      (.call purpose request) answer next) :
    OneObject token workflowId next ∧ LastsIn workflowId now.1 next.1 := by
  obtain ⟨hhistory, hworkflows, hknown, hshown⟩ := answer_once hanswer
  have hsends : sends token workflowId (⟨.call purpose request, answer⟩ :: now.2) =
      sends token workflowId now.2 := by
    rw [sends_cons]
    cases purpose with
    | placeholder named => simp [mayHaveSent, show named ≠ workflowId by simpa using hpurpose]
    | edit _ => rfl
    | result _ _ => rfl
  have hheard := h.heard hsends
  constructor
  · rw [← hhistory] at hsends hheard
    refine ⟨hheard.once, ?_, by rw [hworkflows, hknown]; exact h.held,
      by rw [hknown]; exact hheard.fresh, by rw [hworkflows]; exact hheard.lane⟩
    have hcreated := countP_createdBy purpose request workflowId
    have hbefore := h.shown
    rw [if_neg hpurpose] at hcreated
    rw [hsends]
    rcases hshown with hsame | ⟨hmore, -⟩
    · rw [hsame]
      exact hbefore
    · rw [hmore, List.countP_append]
      omega
  · have hlasts := h.lastsIn_refl
    exact ⟨by rw [hknown]; exact hlasts.known, by rw [hworkflows]; exact hlasts.gone,
      by rw [hworkflows, hknown]; exact hlasts.record⟩

/-- Whatever an allowed question is answered, the world is as it should be, and what was
final stays. -/
theorem OneObject.answers {question : ResultQuestion} {answer : ResultAnswer question}
    (h : OneObject token workflowId now) (hallowed : Allows token workflowId now question)
    (hanswer : (resultSurroundings token).remembering.answers now question answer next) :
    OneObject token workflowId next ∧ LastsIn workflowId now.1 next.1 := by
  cases question with
  | call purpose request =>
      by_cases hpurpose : purpose = .placeholder workflowId
      · subst hpurpose
        obtain ⟨hunsent, chatId, -, hwhile⟩ := hallowed rfl
        exact h.sent hunsent hwhile hanswer
      · exact h.called hpurpose hanswer
  | cycle task change =>
      obtain ⟨hanswer, hhistory⟩ := hanswer
      obtain ⟨world, heard⟩ := next
      obtain rfl := hhistory
      have hcycle : IsCycle ⟨.cycle task change, answer⟩ := ⟨task, change, rfl⟩
      have hsame : OneObject token workflowId (now.1, ⟨.cycle task change, answer⟩ :: now.2) ∧
          LastsIn workflowId now.1 now.1 :=
        ⟨h.heard (hcycle.sends token workflowId now.2), h.lastsIn_refl⟩
      rcases hanswer with ⟨-, rfl⟩ | ⟨time, -, hvalid, hchanged⟩
      · exact hsame
      · split at hchanged
        · obtain rfl := hchanged
          exact hsame
        · rename_i changed hsome
          obtain ⟨-, rfl⟩ := hchanged
          exact h.saved hcycle (hallowed time changed hvalid hsome)

/-! ## Steps -/

variable {α β : Type} {pre : RememberedWorld → Prop}

/-- From every world the precondition holds of the step asks only what is allowed, and
ends in its postcondition. -/
abbrev Keeping (token workflowId : String) (pre : RememberedWorld → Prop) (step : Act α)
    (post : α → RememberedWorld → Prop) : Prop :=
  Procedure.Triple (resultSurroundings token).remembering (Allows token workflowId)
    (fun _ => pre) step (fun value _ => post value)
    (fun _ _ => OneObject token workflowId)

variable {post : α → RememberedWorld → Prop}

theorem Keeping.of (step : Act α)
    {strong : RememberedWorld → Prop} (h : Keeping token workflowId pre step post)
    (hpre : ∀ now, strong now → pre now) : Keeping token workflowId strong step post :=
  Procedure.Triple.weaken h fun _ => hpre

theorem keeping_pure (value : α)
    (h : ∀ now, pre now → post value now) : Keeping token workflowId pre (pure value) post :=
  Procedure.triple_pure value fun _ => h

variable {task : CycleTask}

/-- One cycle: what it saves keeps the record, and every end of it is a postcondition. -/
theorem keeping_cycle {body : Nat → Workflows → Cycled β}
    {post : Option β → RememberedWorld → Prop} (hstable : Stable token pre)
    (hnone : ∀ now heard, pre now → IsCycle heard → post none (now.1, heard :: now.2))
    (hread : ∀ now time change, pre now → (body time now.1.workflows).saved = none →
        post (some (body time now.1.workflows).value)
          (now.1, readBy task change time now.1.workflows :: now.2))
    (hsaved : ∀ now time change changed, pre now →
      (body time now.1.workflows).saved = some changed →
        Kept token workflowId now.2 now.1.workflows changed ∧
        post (some (body time now.1.workflows).value)
          ({ now.1 with workflows := changed }, readBy task change time now.1.workflows :: now.2)) :
    Keeping token workflowId pre (cycle task body) post := by
  refine triple_cycle hstable ?_ ?_ ?_ ?_
  · intro now h time changed _ hchanged
    exact (hsaved now time (fun _ _ => none) changed h hchanged).1
  · intro now change h
    exact hnone now _ h ⟨task, change, rfl⟩
  · intro now time change h hsame _
    exact hread now time change h hsame
  · intro now time change changed h hchanged _
    exact (hsaved now time change changed h hchanged).2

theorem kept_refl (h : OneObject token workflowId now)
    (hsame : changed.get? workflowId = now.1.workflows.get? workflowId) :
    Kept token workflowId now.2 now.1.workflows changed := by
  unfold Kept
  rw [hsame]
  cases hheld : now.1.workflows.get? workflowId with
  | none => trivial
  | some entry => exact ⟨h.lane entry hheld, Lasts.refl entry⟩

omit [Casefolding] [TextDigest] in
theorem isCycle_readBy {change : Nat → Workflows → Option Workflows}
    {time : Nat} {workflows : Workflows} : IsCycle (readBy task change time workflows) :=
  ⟨task, change, rfl⟩

variable {body : Nat → WorkflowRecord → Option (WorkflowRecord × β)} {unchanged : β}

/-- A cycle over the record of another workflow. -/
theorem keeping_changeOther (hne : named ≠ workflowId) :
    Keeping token workflowId (OneObject token workflowId)
      (cycle task fun time => changeOne named unchanged (body time))
      fun _ => OneObject token workflowId := by
  refine keeping_cycle stable_oneObject ?_ ?_ ?_
  · intro now heard h hcycle
    exact h.heard (hcycle.sends ..)
  · intro now time change h _
    exact h.heard (isCycle_readBy.sends ..)
  · intro now time change changed h hsaved
    have hkept : Kept token workflowId now.2 now.1.workflows changed := by
      apply kept_refl h
      rcases @changeOne_cases β named unchanged (body time) now.1.workflows with
        ⟨-, hnone⟩ | ⟨entry, after, value, -, -, hsome⟩
      · rw [hnone] at hsaved
        cases hsaved
      · rw [hsome] at hsaved
        obtain rfl := Option.some.inj hsaved
        exact Dict.get?_set_of_ne _ _ (Ne.symm hne)
    exact ⟨hkept, (h.saved isCycle_readBy hkept).1⟩

/-- A cycle over the record of the workflow itself. -/
theorem keeping_changeOwn
    {post : Option β → RememberedWorld → Prop} (hstable : Stable token pre)
    (hobject : ∀ now, pre now → OneObject token workflowId now)
    (hnone : ∀ now heard, pre now → IsCycle heard → post none (now.1, heard :: now.2))
    (hread : ∀ now heard, pre now → IsCycle heard → post (some unchanged) (now.1, heard :: now.2))
    (hsaved : ∀ now time change entry changed value, pre now →
      now.1.workflows.get? workflowId = some entry → body time entry = some (changed, value) →
        Lane token workflowId now.2 changed ∧ Lasts entry changed ∧ (OneObject token workflowId
            ({ now.1 with workflows := now.1.workflows.set workflowId changed },
              readBy task change time now.1.workflows :: now.2) → post (some value)
            ({ now.1 with workflows := now.1.workflows.set workflowId changed },
              readBy task change time now.1.workflows :: now.2))) : Keeping token workflowId pre
      (cycle task fun time => changeOne workflowId unchanged (body time)) post := by
  refine keeping_cycle hstable hnone ?_ ?_
  · intro now time change h hsame
    rcases @changeOne_cases β workflowId unchanged (body time) now.1.workflows with
      ⟨-, hnone⟩ | ⟨_, _, _, -, -, hsome⟩
    · rw [hnone]
      exact hread now _ h isCycle_readBy
    · rw [hsome] at hsame
      cases hsame
  · intro now time change changed h hchanged
    rcases @changeOne_cases β workflowId unchanged (body time) now.1.workflows with
      ⟨-, hnone⟩ | ⟨entry, after, value, hheld, hbody, hsome⟩
    · rw [hnone] at hchanged
      cases hchanged
    · rw [hsome] at hchanged ⊢
      obtain rfl := Option.some.inj hchanged
      obtain ⟨hlane, hlasts, hpost⟩ := hsaved now time change entry after value h hheld hbody
      have hkept : Kept token workflowId now.2 now.1.workflows
          (now.1.workflows.set workflowId after) := by
        unfold Kept
        rw [hheld, Dict.get?_set_self]
        exact ⟨hlane, hlasts⟩
      exact ⟨hkept, hpost ((hobject now h).saved isCycle_readBy hkept).1⟩

end DodgingInfinity.TelegramOperator
