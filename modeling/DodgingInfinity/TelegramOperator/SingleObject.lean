import DodgingInfinity.TelegramOperator.OneObjectRuns

/-!
# A result is presented by one object

The sweep and the three passes, in any order and number: for each workflow at most one
placeholder is created, its binding stays, no result is sent beside it, and every edit
shows the result on the message that is bound.
-/

namespace DodgingInfinity.TelegramOperator

open WorkflowAuthority

variable [Casefolding] [TextDigest] {token workflowId named : String}
  {history : List ResultHeard} {now next : RememberedWorld} {entry changed : WorkflowRecord}
  {chatId messageId : Nat} {text : String} {α : Type} {pre : RememberedWorld → Prop}

/-! ## Calls -/

/-- Attempts of one request: the last one answered decides. -/
theorem keeping_sendWithRetry {purpose : Purpose} {request : Request} (hstable : Stable token pre)
    (hallowed : ∀ now, pre now → Allows token workflowId now (.call purpose request))
    (hkept : ∀ now answer next, pre now →
      (resultSurroundings token).remembering.answers now (.call purpose request) answer
        next → pre next) (more : Nat) :
    Keeping token workflowId pre (sendWithRetry token purpose request more)
      fun result now => pre now ∧ ∃ answer : TransportAnswer,
        (⟨.call purpose request, answer⟩ : ResultHeard) ∈ now.2 ∧
        result = (callStructured token answer).settled := by
  have hcall : Keeping token workflowId pre (call token purpose request)
      fun result now => pre now ∧ ∃ answer : TransportAnswer,
        (⟨.call purpose request, answer⟩ : ResultHeard) ∈ now.2 ∧
        result = callStructured token answer := by
    apply triple_call hstable hallowed
    intro now answer next hpre hanswer
    refine ⟨hkept now answer next hpre hanswer, answer, ?_, rfl⟩
    rw [(answer_once hanswer).1]
    exact List.mem_cons_self
  induction more with
  | zero =>
      refine hcall.bind fun result => keeping_pure _ ?_
      rintro now ⟨hpre, answer, hmem, rfl⟩
      exact ⟨hpre, answer, hmem, rfl⟩
  | succ more ih =>
      refine hcall.bind fun result => Procedure.triple_ite _ (fun _ => ?_) fun _ => ?_
      · apply keeping_pure
        rintro now ⟨hpre, answer, hmem, rfl⟩
        exact ⟨hpre, answer, hmem, rfl⟩
      · exact ih.of _ fun now h => h.1

/-- A request that is for another workflow, or an edit of it. -/
theorem keeping_callOther {purpose : Purpose} {request : Request}
    (hallowed : ∀ now, Allows token workflowId now (.call purpose request))
    (hpurpose : purpose ≠ .placeholder workflowId) (more : Nat) :
    Keeping token workflowId (OneObject token workflowId)
      (sendWithRetry token purpose request more) fun _ => OneObject token workflowId := by
  refine Procedure.Triple.mono (keeping_sendWithRetry stable_oneObject
    (fun now _ => hallowed now) ?_ more) (fun _ _ _ h => h.1) fun _ _ _ h => h
  intro now answer next h hanswer
  exact (h.called hpurpose hanswer).1

theorem keeping_forEach {body : String → Act Bool}
    (hbody : ∀ named, Keeping token workflowId (OneObject token workflowId) (body named)
      fun _ => OneObject token workflowId) (workflowIds : List String) :
    Keeping token workflowId (OneObject token workflowId)
      (forEachWorkflow body workflowIds) fun _ => OneObject token workflowId := by
  induction workflowIds with
  | nil => exact keeping_pure _ fun _ h => h
  | cons named rest ih =>
      refine (hbody named).bind fun continues => Procedure.triple_ite _ (fun _ => ih) fun _ => ?_
      exact keeping_pure _ fun _ h => h

/-- A cycle that only reads. -/
theorem keeping_reading {β : Type} {task : CycleTask} {body : Nat → Workflows → Cycled β}
    (hreads : ∀ time workflows, (body time workflows).saved = none) :
    Keeping token workflowId (OneObject token workflowId) (cycle task body)
      fun _ => OneObject token workflowId := by
  refine keeping_cycle stable_oneObject ?_ ?_ ?_
  · intro now heard h hcycle
    exact h.heard (hcycle.sends ..)
  · intro now time change h _
    exact h.heard (isCycle_readBy.sends ..)
  · intro now time change changed _ hsaved
    rw [hreads] at hsaved
    cases hsaved

/-! ## The sweep -/

/-- A record whose placeholder is in flight has no delivery by an edit. -/
theorem Lane.not_delivered (h : Lane token workflowId history entry)
    (hsending : isSending entry = true) {delivery : ResultDelivery}
    (hdelivery : entry.resultDelivery = some delivery) :
    delivery.state ≠ .deliveredByEdit := by
  intro hdelivered
  obtain ⟨placeholder, hplaceholder, hstate⟩ := isSending_iff.mp hsending
  obtain ⟨_, _, _, hpresents, -⟩ := h.delivered delivery hdelivery hdelivered
  obtain ⟨held, hbound, hother, -⟩ := hpresents.bound
  obtain rfl := Option.some.inj (hplaceholder.symm.trans hbound)
  rw [hstate] at hother
  cases hother

/-- A placeholder in flight that is left as another one keeps the record in order, as far
as its new state is borne out. -/
theorem Lane.resolved (h : Lane token workflowId history entry)
    (hsending : isSending entry = true) {placeholder : ResultPlaceholder}
    (hunsent : placeholder.state = .required ∨ placeholder.state = .failedUnsent →
      sends token workflowId history = 0) (hbound : placeholder.state = .bound → ∃ messageId,
      placeholder.messageId = some messageId ∧
        AppliedAs token workflowId placeholder.chatId messageId history) :
    Lane token workflowId history { entry with resultPlaceholder := some placeholder } ∧
      Lasts entry { entry with resultPlaceholder := some placeholder } := by
  constructor
  · constructor
    · intro hnone
      cases hnone
    · intro held hheld
      obtain rfl := Option.some.inj hheld
      exact hunsent
    · intro held hheld
      obtain rfl := Option.some.inj hheld
      exact hbound
    · intro delivery hdelivery hdelivered
      exact absurd hdelivered (h.not_delivered hsending hdelivery)
  · constructor
    · intro held hheld hfinal
      obtain ⟨sending, hplaceholder, hstate⟩ := isSending_iff.mp hsending
      obtain rfl := Option.some.inj (hplaceholder.symm.trans hheld)
      rw [hstate] at hfinal
      simp at hfinal
    · intro delivery hdelivery _
      exact hdelivery

theorem Lane.failSending (h : Lane token workflowId history entry) :
    Lane token workflowId history (failSending entry) ∧ Lasts entry (failSending entry) := by
  unfold TelegramOperator.failSending
  split
  · rename_i hsending
    obtain ⟨placeholder, hplaceholder, -⟩ := isSending_iff.mp hsending
    rw [hplaceholder]
    apply h.resolved hsending
    · simp
    · simp
  · exact ⟨h, Lasts.refl entry⟩

theorem keeping_reconcile :
    Keeping token workflowId (OneObject token workflowId) reconcileSendingPlaceholders
      fun _ => OneObject token workflowId := by
  refine Procedure.Triple.bind (α := Option Unit) ?_ fun _ => keeping_pure _ fun _ h => h
  refine keeping_cycle stable_oneObject ?_ ?_ ?_
  · intro now heard h hcycle
    exact h.heard (hcycle.sends ..)
  · intro now time change h _
    exact h.heard (isCycle_readBy.sends ..)
  · intro now time change changed h hsaved
    have hkept : Kept token workflowId now.2 now.1.workflows changed := by
      split at hsaved
      · obtain rfl := Option.some.inj hsaved
        unfold Kept
        rw [Dict.get?_mapValues]
        cases hheld : now.1.workflows.get? workflowId with
        | none => trivial
        | some entry => exact (h.lane entry hheld).failSending
      · cases hsaved
    exact ⟨hkept, (h.saved isCycle_readBy hkept).1⟩

/-! ## Placeholders -/

/-- A claim of the workflow: in flight, with nothing sent for it yet. -/
structure Claimed (token workflowId : String) (chatId : Nat) (now : RememberedWorld) :
    Prop where
  inFlight : While token workflowId (InFlight chatId) now
  unsent : sends token workflowId now.2 = 0

/-- A claim whose send has an outcome that the calls bear out. -/
structure Sent (token workflowId : String) (chatId : Nat) (outcome : SendOnceOutcome)
    (now : RememberedWorld) : Prop where
  inFlight : While token workflowId (InFlight chatId) now
  zero : outcome.classification = .definiteZero → sends token workflowId now.2 = 0
  applied : ∀ messageId : Nat, outcome = ⟨.applied, some messageId⟩ →
    AppliedAs token workflowId chatId messageId now.2

theorem stable_claimed : Stable token (Claimed token workflowId chatId) := by
  intro now next h hdrift
  refine ⟨survives_inFlight.stable now next h.inFlight hdrift, ?_⟩
  rw [hdrift.2]
  exact h.unsent

variable {outcome : SendOnceOutcome}

theorem stable_sent :
    Stable token (Sent token workflowId chatId outcome) := by
  intro now next h hdrift
  refine ⟨survives_inFlight.stable now next h.inFlight hdrift, ?_, ?_⟩
  · rw [hdrift.2]
    exact h.zero
  · rw [hdrift.2]
    exact h.applied

/-- A record that may be claimed is in order once it is. -/
theorem Lane.claimed (h : Lane token workflowId history entry) {time : Nat}
    {claim : Option PlaceholderClaim}
    (hclaim : claimPlaceholder workflowId time entry = some (changed, claim)) :
    Lane token workflowId history changed ∧ Lasts entry changed ∧
      sends token workflowId history = 0 ∧ ∃ chatId digest,
        claim = some ⟨chatId, renderPlaceholderText workflowId, digest⟩ ∧
        InFlight chatId changed := by
  obtain ⟨placeholder, hplaceholder, hstate, rfl, rfl⟩ := claimPlaceholder_eq_some.mp hclaim
  have hunsent := h.unsent placeholder hplaceholder hstate
  have hdelivered : ∀ delivery, entry.resultDelivery = some delivery →
      delivery.state ≠ .deliveredByEdit := by
    intro delivery hdelivery hdelivered
    obtain ⟨_, _, _, hpresents, -⟩ := h.delivered delivery hdelivery hdelivered
    obtain ⟨held, hbound, hother, -⟩ := hpresents.bound
    obtain rfl := Option.some.inj (hplaceholder.symm.trans hbound)
    rw [hother] at hstate
    simp at hstate
  refine ⟨⟨?_, ?_, ?_, ?_⟩, ⟨?_, fun _ hdelivery _ => hdelivery⟩, hunsent,
    placeholder.chatId, _, rfl, _, rfl, rfl, rfl⟩
  · intro hnone
    cases hnone
  · intro _ _ _
    exact hunsent
  · intro held hheld hbound
    obtain rfl := Option.some.inj hheld
    cases hbound
  · intro delivery hdelivery hstate
    exact absurd hstate (hdelivered delivery hdelivery)
  · intro held hheld hfinal
    obtain rfl := Option.some.inj (hplaceholder.symm.trans hheld)
    rcases hstate with hstate | hstate <;> rw [hstate] at hfinal <;> simp at hfinal

/-- What a claim comes to: none, or one of the workflow. -/
def MayClaim (token workflowId : String) (claim : Option PlaceholderClaim)
    (now : RememberedWorld) : Prop :=
  OneObject token workflowId now ∧ ∀ claimed, claim = some claimed →
    claimed.text = renderPlaceholderText workflowId ∧ Claimed token workflowId claimed.chatId now

theorem OneObject.mayClaim (h : OneObject token workflowId now) {heard : ResultHeard}
    (hcycle : IsCycle heard) : MayClaim token workflowId none (now.1, heard :: now.2) :=
  ⟨h.heard (hcycle.sends ..), fun _ hnone => by cases hnone⟩

theorem keeping_claimOnePlaceholder :
    Keeping token workflowId (OneObject token workflowId) (claimOnePlaceholder workflowId)
      (MayClaim token workflowId) := by
  have hcycle : Keeping token workflowId (OneObject token workflowId)
      (cycle (.claimPlaceholder workflowId) fun now =>
        changeOne workflowId none (claimPlaceholder workflowId now))
      fun claimed => MayClaim token workflowId claimed.join := by
    refine keeping_changeOwn stable_oneObject (fun _ h => h)
      (fun now heard h hcycle => h.mayClaim hcycle)
      (fun now heard h hcycle => h.mayClaim hcycle) ?_
    intro now time change entry changed claim h hheld hclaim
    obtain ⟨hlane, hlasts, hunsent, chatId, digest, rfl, hflight⟩ :=
      (h.lane entry hheld).claimed hclaim
    refine ⟨hlane, hlasts, fun hobject => ⟨hobject, fun held hclaimed => ?_⟩⟩
    obtain rfl := Option.some.inj hclaimed
    refine ⟨rfl, ⟨hobject, h.held (by simp [hheld]), fun after hafter => ?_⟩, ?_⟩
    · rw [Dict.get?_set_self] at hafter
      obtain rfl := Option.some.inj hafter
      exact hflight
    · rw [isCycle_readBy.sends]
      exact hunsent
  exact hcycle.bind fun claimed => keeping_pure _ fun _ h => h

/-- One attempt for a claim has an outcome that the calls bear out. -/
theorem keeping_sendMessageOnce (htext : text = renderPlaceholderText workflowId) :
    Keeping token workflowId (Claimed token workflowId chatId)
      (sendMessageOnce token (.placeholder workflowId) chatId text)
      (Sent token workflowId chatId) := by
  unfold sendMessageOnce
  refine Procedure.triple_ite _ (fun _ => ?_) fun _ => ?_
  · apply keeping_pure
    intro now h
    exact ⟨h.inFlight, fun _ => h.unsent, fun _ hnot => by cases hnot⟩
  · have hcall : Keeping token workflowId (Claimed token workflowId chatId)
        (call token (.placeholder workflowId) (.sendMessage chatId (fullText text)))
        fun result => Sent token workflowId chatId (sendOnceOutcome result) := by
      apply triple_call stable_claimed
      · intro now h _
        exact ⟨h.unsent, chatId, by rw [htext], h.inFlight⟩
      · intro now answer next h hanswer
        obtain ⟨hhistory, hworkflows, hknown, -⟩ := answer_once hanswer
        have hobject := (h.inFlight.object.sent h.unsent h.inFlight hanswer).1
        refine ⟨⟨hobject, by rw [hknown]; exact h.inFlight.known,
          by rw [hworkflows]; exact h.inFlight.entry⟩, ?_, ?_⟩
        · intro hzero
          have hclass : sendClass token answer = .definiteZero := hzero
          rw [hhistory, sends_cons, h.unsent]
          simp [mayHaveSent, hclass]
        · intro messageId happlied
          refine ⟨answer, ?_, happlied⟩
          rw [hhistory, htext]
          exact List.mem_cons_self
    exact hcall.bind fun result => keeping_pure _ fun _ h => h

variable {digest : String}

/-- The outcome of a claim leaves the record in order. -/
theorem Lane.recorded (h : Lane token workflowId history entry) {time : Nat} {value : Bool}
    (hrecord : recordPlaceholder digest outcome time entry = some (changed, value))
    (hchat : InFlight chatId entry)
    (hzero : outcome.classification = .definiteZero → sends token workflowId history = 0)
    (happlied : ∀ messageId : Nat, outcome = ⟨.applied, some messageId⟩ →
      AppliedAs token workflowId chatId messageId history) :
    Lane token workflowId history changed ∧ Lasts entry changed := by
  obtain ⟨placeholder, hplaceholder, hstate, rfl⟩ := hchat
  unfold recordPlaceholder at hrecord
  simp only [hplaceholder] at hrecord
  rw [if_neg (by simp [hstate])] at hrecord
  split at hrecord
  · cases hrecord
  · simp only [Option.some.injEq, Prod.mk.injEq] at hrecord
    obtain ⟨rfl, -⟩ := hrecord
    apply h.resolved (isSending_iff.mpr ⟨placeholder, hplaceholder, hstate⟩)
    · unfold placeholderAfter
      split
      · split <;> simp
      · rename_i hclass
        exact fun _ => hzero hclass
      · simp
      · simp
    · unfold placeholderAfter
      split
      · rename_i identifier hclass hmessage
        split
        · rename_i hpositive
          intro _
          refine ⟨identifier.toNat, rfl, happlied identifier.toNat ?_⟩
          obtain ⟨classification, messageId⟩ := outcome
          dsimp only at hclass hmessage
          rw [hclass, hmessage, Int.toNat_of_nonneg (by omega)]
        · simp
      · simp
      · simp
      · simp

theorem keeping_recordPlaceholderOutcome :
    Keeping token workflowId (Sent token workflowId chatId outcome)
      (recordPlaceholderOutcome workflowId digest outcome)
      fun _ => OneObject token workflowId := by
  have hcycle : Keeping token workflowId (Sent token workflowId chatId outcome)
      (cycle (.recordPlaceholder workflowId) fun now =>
        changeOne workflowId true (recordPlaceholder digest outcome now))
      fun _ => OneObject token workflowId := by
    refine keeping_changeOwn stable_sent (fun _ h => h.inFlight.object)
      (fun now heard h hcycle => h.inFlight.object.heard (hcycle.sends ..))
      (fun now heard h hcycle => h.inFlight.object.heard (hcycle.sends ..)) ?_
    intro now time change entry changed value h hheld hrecord
    obtain ⟨hlane, hlasts⟩ := (h.inFlight.object.lane entry hheld).recorded hrecord
      (h.inFlight.entry entry hheld) h.zero h.applied
    exact ⟨hlane, hlasts, id⟩
  exact hcycle.bind fun recorded => keeping_pure _ fun _ h => h

theorem keeping_claimOther (hne : named ≠ workflowId) :
    Keeping token workflowId (OneObject token workflowId) (claimOnePlaceholder named)
      fun _ => OneObject token workflowId :=
  Procedure.Triple.bind (keeping_changeOther hne) fun _ => keeping_pure _ fun _ h => h

theorem keeping_sendOther (hne : named ≠ workflowId) :
    Keeping token workflowId (OneObject token workflowId)
      (sendMessageOnce token (.placeholder named) chatId text)
      fun _ => OneObject token workflowId := by
  unfold sendMessageOnce
  refine Procedure.triple_ite _ (fun _ => keeping_pure _ fun _ h => h) fun _ => ?_
  have hcall : Keeping token workflowId (OneObject token workflowId)
      (call token (.placeholder named) (.sendMessage chatId (fullText text)))
      fun _ => OneObject token workflowId := by
    apply triple_call stable_oneObject
    · intro now _ hsame
      exact absurd hsame hne
    · intro now answer next h hanswer
      exact (h.called (by simpa using hne) hanswer).1
  exact hcall.bind fun result => keeping_pure _ fun _ h => h

theorem keeping_recordOther (hne : named ≠ workflowId) :
    Keeping token workflowId (OneObject token workflowId)
      (recordPlaceholderOutcome named digest outcome) fun _ => OneObject token workflowId :=
  Procedure.Triple.bind (keeping_changeOther hne) fun _ => keeping_pure _ fun _ h => h

theorem keeping_ensurePlaceholder (named : String) :
    Keeping token workflowId (OneObject token workflowId) (ensurePlaceholder token named)
      fun _ => OneObject token workflowId := by
  by_cases hown : named = workflowId
  · subst hown
    refine keeping_claimOnePlaceholder.bind fun claim => ?_
    cases claim with
    | none => exact keeping_pure _ fun _ h => h.1
    | some claimed =>
        refine Procedure.triple_of (fun _ now h => (h.2 claimed rfl).1) fun htext => ?_
        have hsend : Keeping token named (MayClaim token named (some claimed))
            (sendMessageOnce token (.placeholder named) claimed.chatId claimed.text)
            (Sent token named claimed.chatId) :=
          (keeping_sendMessageOnce htext).of _ fun now h => (h.2 claimed rfl).2
        exact hsend.bind fun outcome => keeping_recordPlaceholderOutcome
  · refine (keeping_claimOther hown).bind fun claim => ?_
    cases claim with
    | none => exact keeping_pure _ fun _ h => h
    | some claimed =>
        exact (keeping_sendOther hown).bind fun outcome => keeping_recordOther hown

theorem keeping_ensureResultPlaceholders :
    Keeping token workflowId (OneObject token workflowId) (ensureResultPlaceholders token)
      fun _ => OneObject token workflowId := by
  refine Procedure.Triple.bind (Procedure.Triple.bind
    (keeping_reading fun _ _ => rfl) fun found => keeping_pure _ fun _ h => h)
    fun eligible => keeping_forEach keeping_ensurePlaceholder eligible

end DodgingInfinity.TelegramOperator
