import DodgingInfinity.TelegramOperator.SingleObject

/-!
# Edits and results of a single object

An edit goes to the message that is bound and shows the verified result, and no result is
sent beside it.  So the sweep and the passes, in any order and number, present a result by
one object.
-/

namespace DodgingInfinity.TelegramOperator

open WorkflowAuthority

variable [Casefolding] [TextDigest] [Wording] {token workflowId named : String}
  {history : List ResultHeard} {now next : RememberedWorld} {entry changed : WorkflowRecord}
  {chatId messageId : Nat} {text : String}

/-! ## Edits -/

/-- An intent of the workflow: its record presents the text on the message. -/
structure Intended (token workflowId : String) (claim : EditClaim) (messageId : Nat)
    (now : RememberedWorld) : Prop where
  presents : While token workflowId (Presents · claim.chatId messageId claim.text) now
  read : Read workflowId claim.chatId messageId claim.text now.2

/-- What the fields of an intent are to one another. -/
structure EditClaim.Names (claim : EditClaim) (messageId : Nat) : Prop where
  message : claim.messageId = some messageId
  digest : claim.renderedDigest = textDigest claim.text

omit [Casefolding] [Wording] [TextDigest] in
theorem Read.cons (h : Read workflowId chatId messageId text history) (heard : ResultHeard) :
    Read workflowId chatId messageId text (heard :: history) := by
  obtain ⟨task, change, time, workflows, entry, hmem, hrest⟩ := h
  exact ⟨task, change, time, workflows, entry, List.mem_cons_of_mem _ hmem, hrest⟩

variable {claim : EditClaim}

omit [Wording] in
theorem stable_intended :
    Stable token (Intended token workflowId claim messageId) := by
  intro now next h hdrift
  refine ⟨survives_presents.stable now next h.presents hdrift, ?_⟩
  rw [hdrift.2]
  exact h.read

omit [Casefolding] [Wording] in
theorem editDeliveryClaimable_iff : editDeliveryClaimable entry = true ↔
    ∃ verified, entry.verifiedResult = some verified ∧ entry.phase = .completed ∧
      isBound entry = true ∧ ∀ delivery, entry.resultDelivery = some delivery →
        deliveryClaimable (renderResultText entry verified) verified.digest delivery =
          true := by
  unfold editDeliveryClaimable
  cases entry.verifiedResult with
  | none => simp
  | some verified =>
      simp only [Bool.and_eq_true, decide_eq_true_eq, Option.all_eq_true, Option.some.injEq,
        exists_eq_left', and_assoc]

variable {delivery : ResultDelivery}

omit [Casefolding] [Wording] in
theorem deliveryClaimable_degraded {digest : String}
    (h : deliveryClaimable text digest delivery = true) :
    delivery.state ≠ .degradedUnbindable := by
  intro hdegraded
  unfold deliveryClaimable at h
  rw [if_pos hdegraded] at h
  cases h

omit [Wording] in
/-- A change of the delivery alone keeps the record in order, as far as the new one is
borne out. -/
theorem Lane.delivers (h : Lane token workflowId history entry) (hbound : isBound entry = true)
    (hopen : ∀ old, entry.resultDelivery = some old → old.state ≠ .degradedUnbindable)
    (hdelivered : delivery.state = .deliveredByEdit → ∃ chatId messageId text,
      Presents entry chatId messageId text ∧ delivery.editedMessageId = some messageId ∧
      delivery.renderedDigest = some (textDigest text) ∧
      Edited token workflowId chatId messageId text history) :
    Lane token workflowId history { entry with resultDelivery := some delivery } ∧
      Lasts entry { entry with resultDelivery := some delivery } := by
  refine ⟨⟨?_, h.unsent, h.bound, ?_⟩, ⟨fun _ hheld _ => hheld, ?_⟩⟩
  · intro hnone
    have hnone : entry.resultPlaceholder = none := hnone
    unfold isBound at hbound
    rw [hnone] at hbound
    cases hbound
  · intro held hheld hstate
    obtain rfl := Option.some.inj hheld
    obtain ⟨chatId, messageId, text, hpresents, hrest⟩ := hdelivered hstate
    exact ⟨chatId, messageId, text, ⟨hpresents.completed, hpresents.verified,
      hpresents.bound⟩, hrest⟩
  · intro old hold hdegraded
    exact absurd hdegraded (hopen old hold)

variable {time : Nat}

/-- The intent of an edit: the record presents the text it names. -/
theorem Lane.editClaimed (h : Lane token workflowId history entry)
    {claim : Option EditClaim} (hclaim : claimEdit time entry = some (changed, claim)) :
    Lane token workflowId history changed ∧ Lasts entry changed ∧
      ∀ claimed, claim = some claimed → ∃ messageId, claimed.Names messageId ∧
        Presents entry claimed.chatId messageId claimed.text ∧
        Presents changed claimed.chatId messageId claimed.text := by
  unfold claimEdit at hclaim
  split at hclaim
  · rename_i verified placeholder hverified hplaceholder
    dsimp only at hclaim
    split at hclaim
    · cases hclaim
    · rename_i hclaims
      rw [Bool.not_eq_false] at hclaims
      obtain ⟨held, hheld, hcompleted, hbound, hdelivery⟩ :=
        editDeliveryClaimable_iff.mp hclaims
      obtain rfl := Option.some.inj (hverified.symm.trans hheld)
      have hopen : ∀ old, entry.resultDelivery = some old → old.state ≠ .degradedUnbindable :=
        fun old hold => deliveryClaimable_degraded (hdelivery old hold)
      have hkept : ∀ delivery : ResultDelivery, delivery.state ≠ .deliveredByEdit →
          Lane token workflowId history { entry with resultDelivery := some delivery } ∧
            Lasts entry { entry with resultDelivery := some delivery } :=
        fun delivery hstate => h.delivers hbound hopen fun hother => absurd hother hstate
      split at hclaim
      · simp only [Option.some.injEq, Prod.mk.injEq] at hclaim
        obtain ⟨rfl, rfl⟩ := hclaim
        refine ⟨(hkept _ ?_).1, (hkept _ ?_).2, fun _ hnone => by cases hnone⟩ <;>
          simp [deliveryMarker]
      · simp only [Option.some.injEq, Prod.mk.injEq] at hclaim
        obtain ⟨rfl, rfl⟩ := hclaim
        refine ⟨(hkept _ ?_).1, (hkept _ ?_).2, fun claimed hclaimed => ?_⟩
        · simp [deliveryMarker]
        · simp [deliveryMarker]
        obtain rfl := Option.some.inj hclaimed
        have hstate : placeholder.state = .bound := by
          simpa [isBound, hplaceholder] using hbound
        obtain ⟨messageId, hmessage, -⟩ := h.bound placeholder hplaceholder hstate
        refine ⟨messageId, ⟨hmessage, rfl⟩, ?_, ?_⟩
        · exact ⟨hcompleted, ⟨verified, hverified, rfl⟩, placeholder, hplaceholder, hstate,
            rfl, hmessage⟩
        · exact ⟨hcompleted, ⟨verified, hverified, rfl⟩, placeholder, hplaceholder, hstate,
            rfl, hmessage⟩
  · cases hclaim
  · cases hclaim

/-- What an edit claim comes to: none, or an intent of the workflow. -/
def MayEdit (token workflowId : String) (claim : Option EditClaim) (now : RememberedWorld) : Prop :=
  OneObject token workflowId now ∧ ∀ claimed, claim = some claimed →
    ∃ messageId, claimed.Names messageId ∧ Intended token workflowId claimed messageId now

theorem keeping_claimOneEdit :
    Keeping token workflowId (OneObject token workflowId) (claimOneEdit workflowId)
      (MayEdit token workflowId) := by
  have hcycle : Keeping token workflowId (OneObject token workflowId)
      (cycle (.claimEdit workflowId) fun now =>
        changeOne workflowId none (claimEdit now))
      fun claimed => MayEdit token workflowId claimed.join := by
    refine keeping_changeOwn stable_oneObject (fun _ h => h) ?_ ?_ ?_
    · intro now heard h hcycle
      exact ⟨h.heard (hcycle.sends ..), fun _ hnone => by cases hnone⟩
    · intro now heard h hcycle
      exact ⟨h.heard (hcycle.sends ..), fun _ hnone => by cases hnone⟩
    · intro now time change entry changed claim h hheld hclaim
      obtain ⟨hlane, hlasts, hclaimed⟩ := (h.lane entry hheld).editClaimed hclaim
      refine ⟨hlane, hlasts, fun hobject => ⟨hobject, fun held hsome => ?_⟩⟩
      obtain ⟨messageId, hnames, hbefore, hafter⟩ := hclaimed held hsome
      refine ⟨messageId, hnames, ⟨hobject, h.held (by simp [hheld]), ?_⟩, ?_⟩
      · intro after hget
        rw [Dict.get?_set_self] at hget
        obtain rfl := Option.some.inj hget
        exact hafter
      · exact ⟨_, change, time, _, entry, List.mem_cons_self, hheld, hbefore⟩
  exact hcycle.bind fun claimed => keeping_pure _ fun _ h => h

omit [Wording] in
/-- An edit of the bound message: an outcome of success was heard. -/
theorem keeping_editMessageText (hnames : claim.Names messageId) :
    Keeping token workflowId (Intended token workflowId claim messageId)
      (editMessageText token (.edit workflowId) claim.chatId claim.messageId claim.text)
      fun outcome now => Intended token workflowId claim messageId now ∧
        (outcome.ok = true ∨ outcome.alreadyApplied = true →
          Edited token workflowId claim.chatId messageId claim.text now.2) := by
  unfold editMessageText
  refine Procedure.triple_ite _ (fun _ => keeping_pure _ fun now h => ⟨h, ?_⟩) fun _ => ?_
  · intro hsuccess
    rcases hsuccess with hfalse | hfalse <;> cases hfalse
  · refine Procedure.Triple.bind (keeping_sendWithRetry stable_intended ?_ ?_ _)
      fun result => keeping_pure _ ?_
    · intro now h _
      exact ⟨claim.chatId, messageId, claim.text, by rw [hnames.message], h.read, h.presents⟩
    · intro now answer next h hanswer
      obtain ⟨hhistory, hworkflows, hknown, -⟩ := answer_once hanswer
      have hobject := (h.presents.object.called (by simp) hanswer).1
      refine ⟨⟨hobject, by rw [hknown]; exact h.presents.known,
        by rw [hworkflows]; exact h.presents.entry⟩, ?_⟩
      rw [hhistory]
      exact h.read.cons _
    · rintro now ⟨h, answer, hmem, rfl⟩
      refine ⟨h, fun hsuccess => ⟨answer, ?_, ?_⟩⟩
      · rw [hnames.message] at hmem
        exact hmem
      · simp only [editOutcome, decide_eq_true_eq] at hsuccess
        rcases hsuccess with hok | happlied
        · exact .inl hok
        · right
          unfold CallResult.settled at happlied
          split at happlied <;> exact happlied

variable {outcome : EditOutcome}

omit [Casefolding] [Wording] in
/-- An outcome recorded as delivered names the message of the intent. -/
theorem classifyEditOutcome_delivered
    (h : (classifyEditOutcome entry claim outcome).1 = .deliveredByEdit) :
    (outcome.ok = true ∨ outcome.alreadyApplied = true) ∧
      (classifyEditOutcome entry claim outcome).2.2 = claim.messageId := by
  unfold classifyEditOutcome at h ⊢
  split_ifs at h ⊢ with hbinding hok happlied hdigest hmissing
  · exact ⟨.inl hok, rfl⟩
  · exact ⟨.inr happlied, rfl⟩

theorem Lane.editRecorded (h : Lane token workflowId history entry) (hnames : claim.Names messageId)
    (hpresents : Presents entry claim.chatId messageId claim.text)
    (hedited : outcome.ok = true ∨ outcome.alreadyApplied = true →
      Edited token workflowId claim.chatId messageId claim.text history)
    (hrecord : recordEdit claim outcome time entry = some (changed, ())) :
    Lane token workflowId history changed ∧ Lasts entry changed := by
  unfold recordEdit at hrecord
  split at hrecord
  · cases hrecord
  · rename_i delivery hdelivery
    split at hrecord
    · cases hrecord
    · rename_i hpending
      rw [not_not] at hpending
      split at hrecord
      · cases hrecord
      · simp only [Option.some.injEq, Prod.mk.injEq, and_true] at hrecord
        obtain rfl := hrecord
        have hbound : isBound entry = true := by
          obtain ⟨placeholder, hplaceholder, hstate, -⟩ := hpresents.bound
          simp [isBound, hplaceholder, hstate]
        apply h.delivers hbound
        · intro old hold
          obtain rfl := Option.some.inj (hdelivery.symm.trans hold)
          rw [hpending]
          simp
        · intro hstate
          obtain ⟨hsuccess, hmessage⟩ := classifyEditOutcome_delivered hstate
          refine ⟨claim.chatId, messageId, claim.text, hpresents, ?_, ?_, hedited hsuccess⟩
          · exact hmessage.trans hnames.message
          · exact congrArg some hnames.digest

/-- An intent whose edit has an outcome that the calls bear out. -/
structure EditHeard (token workflowId : String) (claim : EditClaim) (messageId : Nat)
    (outcome : EditOutcome) (now : RememberedWorld) : Prop where
  intended : Intended token workflowId claim messageId now
  edited : outcome.ok = true ∨ outcome.alreadyApplied = true →
    Edited token workflowId claim.chatId messageId claim.text now.2

omit [Wording] in
theorem stable_editHeard :
    Stable token (EditHeard token workflowId claim messageId outcome) := by
  intro now next h hdrift
  refine ⟨stable_intended now next h.intended hdrift, ?_⟩
  rw [hdrift.2]
  exact h.edited

theorem keeping_performOneEdit (hnames : claim.Names messageId) :
    Keeping token workflowId (Intended token workflowId claim messageId)
      (performOneEdit token workflowId claim) fun _ => OneObject token workflowId := by
  have hrecord : ∀ outcome, Keeping token workflowId
      (EditHeard token workflowId claim messageId outcome)
      (cycle (.recordEdit workflowId) fun now =>
        changeOne workflowId () (recordEdit claim outcome now))
      fun _ => OneObject token workflowId := by
    intro outcome
    refine keeping_changeOwn stable_editHeard (fun _ h => h.intended.presents.object)
      (fun now heard h hcycle => h.intended.presents.object.heard (hcycle.sends ..))
      (fun now heard h hcycle => h.intended.presents.object.heard (hcycle.sends ..)) ?_
    intro now time change entry changed _ h hheld hchanged
    obtain ⟨hlane, hlasts⟩ := (h.intended.presents.object.lane entry hheld).editRecorded
      hnames (h.intended.presents.entry entry hheld) h.edited hchanged
    exact ⟨hlane, hlasts, id⟩
  refine (keeping_editMessageText hnames).bind fun outcome => ?_
  have hafter := (hrecord outcome).of _ fun now
    (h : Intended token workflowId claim messageId now ∧ _) => ⟨h.1, h.2⟩
  exact hafter.bind fun _ => keeping_pure _ fun _ h => h

theorem keeping_performOther (hne : named ≠ workflowId) (claim : EditClaim) :
    Keeping token workflowId (OneObject token workflowId)
      (performOneEdit token named claim) fun _ => OneObject token workflowId := by
  have hedit : Keeping token workflowId (OneObject token workflowId)
      (editMessageText token (.edit named) claim.chatId claim.messageId claim.text)
      fun _ => OneObject token workflowId := by
    unfold editMessageText
    refine Procedure.triple_ite _ (fun _ => keeping_pure _ fun _ h => h) fun _ => ?_
    refine Procedure.Triple.bind (keeping_callOther ?_ (by simp) _)
      fun result => keeping_pure _ fun _ h => h
    intro now hsame
    exact absurd hsame hne
  refine hedit.bind fun outcome => ?_
  have hrecord : Keeping token workflowId (OneObject token workflowId)
      (cycle (.recordEdit named) fun now =>
        changeOne named () (recordEdit claim outcome now))
      fun _ => OneObject token workflowId := keeping_changeOther hne
  exact hrecord.bind fun _ => keeping_pure _ fun _ h => h

theorem keeping_deliverEdit (named : String) :
    Keeping token workflowId (OneObject token workflowId) (deliverEdit token named)
      fun _ => OneObject token workflowId := by
  by_cases hown : named = workflowId
  · subst hown
    refine keeping_claimOneEdit.bind fun claim => ?_
    cases claim with
    | none => exact keeping_pure _ fun _ h => h.1
    | some claimed =>
        intro working now h
        obtain ⟨messageId, hnames, hintended⟩ := h.2 claimed rfl
        have hperform : Keeping token named (Intended token named claimed messageId)
            (performOneEdit token named claimed >>= fun _ => pure true)
            fun _ => OneObject token named :=
          (keeping_performOneEdit hnames).bind fun _ => keeping_pure _ fun _ h => h
        exact hperform working now hintended
  · have hclaim : Keeping token workflowId (OneObject token workflowId)
        (claimOneEdit named) fun _ => OneObject token workflowId :=
      Procedure.Triple.bind (keeping_changeOther hown) fun _ => keeping_pure _ fun _ h => h
    refine hclaim.bind fun claim => ?_
    cases claim with
    | none => exact keeping_pure _ fun _ h => h
    | some claimed =>
        exact (keeping_performOther hown claimed).bind fun _ => keeping_pure _ fun _ h => h

theorem keeping_deliverResultEdits :
    Keeping token workflowId (OneObject token workflowId) (deliverResultEdits token)
      fun _ => OneObject token workflowId := by
  refine Procedure.Triple.bind (Procedure.Triple.bind
    (keeping_reading fun _ _ => rfl) fun found => keeping_pure _ fun _ h => h)
    fun claimable => keeping_forEach keeping_deliverEdit claimable

/-! ## Results of messages of their own -/

omit [Casefolding] [TextDigest] [Wording] in
theorem isPendingResult_iff : isPendingResult entry = true ↔
    entry.phase = .completed ∧ entry.verifiedResult.isSome = true ∧
      entry.resultDelivery = none ∧ entry.resultPlaceholder = none ∧
      entry.origin = none := by
  simp [isPendingResult, and_assoc]

omit [Wording] in
/-- A record of this lane is never one of those sent as messages of their own. -/
theorem Lane.not_pending (h : Lane token workflowId history entry) :
    isPendingResult entry = false := by
  by_contra hpending
  rw [Bool.not_eq_false, isPendingResult_iff] at hpending
  obtain ⟨hcompleted, -, -, hnone, horigin⟩ := hpending
  rcases (h.unasked hnone).2.2 horigin with hphase | hphase <;>
    rw [hcompleted] at hphase <;> cases hphase

/-- What is reserved is of other workflows. -/
def OfOthers (workflowId : String) (reserved : List (String × WorkflowRecord)) : Prop :=
  ∀ item ∈ reserved, item.1 ≠ workflowId

omit [Wording] in
theorem OneObject.pending_ofOthers (h : OneObject token workflowId now) (time : Nat) :
    OfOthers workflowId (((sortedBy Prod.fst now.1.workflows.entries).filter fun item =>
        isPendingResult item.2).map fun item => (item.1, reserveResult time item.2)) := by
  intro item hitem
  obtain ⟨held, hheld, rfl⟩ := List.mem_map.mp hitem
  obtain ⟨hmem, hpending⟩ := List.mem_filter.mp hheld
  rw [mem_sortedBy] at hmem
  rintro rfl
  have hrecord := (Dict.mem_entries_iff _ _ _).mp hmem
  rw [(h.lane held.2 hrecord).not_pending] at hpending
  cases hpending

omit [Wording] in
theorem keeping_reserveResults :
    Keeping token workflowId (OneObject token workflowId) reserveResults
      fun reserved now => OneObject token workflowId now ∧ OfOthers workflowId reserved := by
  have hsame : ∀ now, OneObject token workflowId now → ∀ heard, IsCycle heard →
      OneObject token workflowId (now.1, heard :: now.2) :=
    fun now h heard hcycle => h.heard (hcycle.sends ..)
  unfold reserveResults
  refine Procedure.Triple.bind (β := List (String × WorkflowRecord)) (@keeping_cycle _ _ _ _ _ _ _
      _
      (fun reserved now => OneObject token workflowId now ∧ OfOthers workflowId (reserved.getD []))
        stable_oneObject ?_ ?_ ?_)
    fun reserved => keeping_pure _ fun _ h => h
  · intro now heard h hcycle
    exact ⟨hsame now h heard hcycle, fun item hitem => by cases hitem⟩
  · intro now time change h _
    exact ⟨hsame now h _ isCycle_readBy, h.pending_ofOthers time⟩
  · intro now time change changed h hsaved
    have hkept : Kept token workflowId now.2 now.1.workflows changed := by
      apply kept_refl h
      dsimp only at hsaved
      split at hsaved
      · cases hsaved
      · obtain rfl := Option.some.inj hsaved
        rw [Dict.get?_mapValues]
        cases hheld : now.1.workflows.get? workflowId with
        | none => rfl
        | some entry =>
            simp [reserveResult, (h.lane entry hheld).not_pending]
    exact ⟨hkept, (h.saved isCycle_readBy hkept).1, h.pending_ofOthers time⟩

omit [Wording] in
/-- Results of another workflow, sent as messages of their own. -/
theorem keeping_sendChunks (hne : named ≠ workflowId) (messageIds : List Int)
    (chunks : List (String × Nat)) : Keeping token workflowId (OneObject token workflowId)
      (sendChunks token named chatId messageIds chunks)
      fun _ => OneObject token workflowId := by
  induction chunks generalizing messageIds with
  | nil => exact keeping_pure _ fun _ h => h
  | cons chunk rest ih =>
      have hcall : Keeping token workflowId (OneObject token workflowId)
          (sendWithRetry token (.result named chunk.2) (.sendMessage chatId chunk.1)
            (maxSendAttempts - 1))
          fun _ => OneObject token workflowId := by
        apply keeping_callOther
        · intro now
          exact hne
        · simp
      refine hcall.bind fun result => ?_
      split
      · exact keeping_pure _ fun _ h => h
      · exact keeping_pure _ fun _ h => h
      · exact ih _

omit [Wording] in
theorem keeping_deliverOneResult (hne : named ≠ workflowId) :
    Keeping token workflowId (OneObject token workflowId)
      (deliverOneResult token named entry) fun _ => OneObject token workflowId := by
  unfold deliverOneResult
  split
  · refine (keeping_sendChunks hne _ _).bind fun outcome => ?_
    have hrecord : Keeping token workflowId (OneObject token workflowId)
        (cycle (.recordResult named) fun now =>
          changeOne named () (recordResult outcome now))
        fun _ => OneObject token workflowId := keeping_changeOther hne
    exact hrecord.bind fun _ => keeping_pure _ fun _ h => h
  · exact Procedure.triple_stop _ fun _ _ h => h
  · exact Procedure.triple_stop _ fun _ _ h => h

omit [Wording] in
theorem keeping_deliverEach (reserved : List (String × WorkflowRecord))
    (hothers : OfOthers workflowId reserved) :
    Keeping token workflowId (OneObject token workflowId) (deliverEach token reserved)
      fun _ => OneObject token workflowId := by
  induction reserved with
  | nil => exact keeping_pure _ fun _ h => h
  | cons item rest ih =>
      refine (keeping_deliverOneResult (hothers item List.mem_cons_self)).bind fun _ =>
        ih fun other hother => hothers other (List.mem_cons_of_mem _ hother)

omit [Wording] in
theorem keeping_deliverPendingResults :
    Keeping token workflowId (OneObject token workflowId) (deliverPendingResults token)
      fun _ => OneObject token workflowId := by
  refine keeping_reserveResults.bind fun reserved working now h => ?_
  exact keeping_deliverEach reserved h.2 working now h.1

end DodgingInfinity.TelegramOperator

/-!
## What a workflow is presented by

The runs of the startup sweep and the passes, in any order and number, each finished or
cut off, and what they leave of one workflow from before its approval on.
-/

namespace DodgingInfinity.TelegramOperator

open WorkflowAuthority

section

variable [Casefolding] [TextDigest] [Wording] {token workflowId : String}
  {origin final : ResultWorld} {trace : List ResultAsked}

/-- The startup sweep, and the passes. -/
inductive Starts (token : String) :
    Program ResultQuestion ResultAnswer (Except Raised Unit × Unit) → Prop
  | sweep : Starts token (reconcileSendingPlaceholders ())
  | placeholders : Starts token (ensureResultPlaceholders token ())
  | edits : Starts token (deliverResultEdits token ())
  | pending : Starts token (deliverPendingResults token ())

/-- Calls of them, one after another, with what others do meanwhile. -/
abbrev Runs (token : String) (origin : ResultWorld) (trace : List ResultAsked)
    (final : ResultWorld) : Prop :=
  Calls (resultSurroundings token) Others (Starts token) origin trace final

/-- A workflow that is not approved yet: its record, if there is one, has no placeholder
and no delivery and is planned or closed, and no placeholder of it was ever shown. -/
structure Unapproved (workflowId : String) (world : ResultWorld) : Prop where
  held : world.workflows.get? workflowId ≠ none → workflowId ∈ world.known
  record : ∀ entry, world.workflows.get? workflowId = some entry →
    entry.resultPlaceholder = none ∧ entry.resultDelivery = none ∧
      (entry.phase = .planned ∨ entry.phase = .blocked)
  unshown : ∀ shown ∈ world.shown, shown.purpose ≠ .placeholder workflowId

/-- What presents a workflow in a run. -/
structure PresentedByOne (token workflowId : String) (trace : List ResultAsked)
    (final : ResultWorld) : Prop where
  /-- At most one placeholder is created. -/
  once : final.shown.countP (isPlaceholderOf workflowId) ≤ 1
  /-- No message of its own is sent for the result. -/
  apart : ∀ asked ∈ trace, ∀ chunk request,
    asked.question ≠ .call (.result workflowId chunk) request
  /-- An edit goes to the message bound and shows the result verified. -/
  edits : ∀ before asked after request, trace = before ++ asked :: after →
    asked.question = .call (.edit workflowId) request → ∃ chatId messageId text,
      request = .editMessageText chatId (some messageId) (fullText text) ∧
      Read workflowId chatId messageId text (historyOf before) ∧
      ∀ entry, asked.before.workflows.get? workflowId = some entry →
        Presents entry chatId messageId text
  /-- A binding is to the message its placeholder was answered with. -/
  bound : ∀ entry placeholder, final.workflows.get? workflowId = some entry →
    entry.resultPlaceholder = some placeholder → placeholder.state = .bound →
      ∃ messageId, placeholder.messageId = some messageId ∧
        AppliedAs token workflowId placeholder.chatId messageId (historyOf trace)
  /-- A result recorded as shown was answered so by an edit of the message bound. -/
  delivered : ∀ entry delivery, final.workflows.get? workflowId = some entry →
    entry.resultDelivery = some delivery → delivery.state = .deliveredByEdit →
      ∃ chatId messageId text, Presents entry chatId messageId text ∧
        delivery.editedMessageId = some messageId ∧
        delivery.renderedDigest = some (textDigest text) ∧
        Edited token workflowId chatId messageId text (historyOf trace)
  /-- A binding, and a placeholder or a delivery given up, stay as they are. -/
  lasting : ∀ asked ∈ trace, LastsIn workflowId asked.before final ∧
    LastsIn workflowId asked.after final

omit [Wording] in
theorem Unapproved.oneObject (h : Unapproved workflowId origin) :
    OneObject token workflowId (origin, []) where
  once := by simp [sends]
  shown := by
    have hnone : origin.shown.countP (isPlaceholderOf workflowId) = 0 := by
      rw [List.countP_eq_zero]
      intro shown hshown
      simpa [isPlaceholderOf] using h.unshown shown hshown
    rw [hnone]
    exact Nat.zero_le _
  held := h.held
  fresh _ := rfl
  lane entry hheld := by
    obtain ⟨hplaceholder, hdelivery, hphase⟩ := h.record entry hheld
    exact ⟨fun _ => ⟨rfl, hdelivery, fun _ => hphase⟩, by simp [hplaceholder],
      by simp [hplaceholder], by simp [hdelivery]⟩

/-- The sweep and every pass ask only what is allowed. -/
theorem Starts.safe {program : Program ResultQuestion ResultAnswer (Except Raised Unit × Unit)}
    (h : Starts token program) {now : RememberedWorld} (hobject : OneObject token workflowId now) :
    program.Safe (resultSurroundings token).remembering (Allows token workflowId)
      (fun _ _ => True) now := by
  have hsafe : ∀ {step : Act Unit}, Keeping token workflowId (OneObject token workflowId)
      step (fun _ => OneObject token workflowId) →
      (step ()).Safe (resultSurroundings token).remembering (Allows token workflowId)
        (fun _ _ => True) now :=
    fun hkeeping => (hkeeping () now hobject).mono fun _ _ _ => trivial
  cases h with
  | sweep => exact hsafe keeping_reconcile
  | placeholders => exact hsafe keeping_ensureResultPlaceholders
  | edits => exact hsafe keeping_deliverResultEdits
  | pending => exact hsafe keeping_deliverPendingResults

/-- A workflow that runs meet before its approval is presented by one object. -/
theorem presented_by_one (hrun : Runs token origin trace final)
    (horigin : Unapproved workflowId origin) :
    PresentedByOne token workflowId trace final := by
  obtain ⟨hobject, hasked⟩ := Calls.heard (OneObject token workflowId)
    (fun _ _ hstarts hobject => hstarts.safe hobject)
    (fun _ _ hobject hothers => hobject.drifts hothers)
    (fun _ _ hobject hdrift => hobject.drifts hdrift)
    (fun _ _ _ _ hobject hallowed hanswer => (hobject.answers hallowed hanswer).1)
    hrun horigin.oneObject
  have hlasting := Calls.lasting (OneObject token workflowId)
    (fun before after => LastsIn workflowId before.1 after.1)
    (fun _ _ hstarts hobject => hstarts.safe hobject)
    (fun _ hobject => hobject.lastsIn_refl)
    (fun _ _ _ hfirst hsecond => hfirst.trans hsecond)
    (fun _ _ hobject hothers => ⟨hobject.drifts hothers, hobject.lastsIn_drifts hothers⟩)
    (fun _ _ hobject hdrift => ⟨hobject.drifts hdrift, hobject.lastsIn_drifts hdrift⟩)
    (fun _ _ _ _ hobject hallowed hanswer => hobject.answers hallowed hanswer)
    hrun horigin.oneObject
  constructor
  · exact hobject.shown.trans hobject.once
  · intro asked hmem chunk request hquestion
    obtain ⟨before, after, hsplit⟩ := List.append_of_mem hmem
    have hallowed := (hasked before asked after hsplit).1
    rw [hquestion] at hallowed
    exact hallowed rfl
  · intro before asked after request hsplit hquestion
    have hallowed := (hasked before asked after hsplit).1
    rw [hquestion] at hallowed
    obtain ⟨chatId, messageId, text, hrequest, hread, hwhile⟩ := hallowed rfl
    exact ⟨chatId, messageId, text, hrequest, hread, hwhile.entry⟩
  · intro entry placeholder hheld
    exact (hobject.lane entry hheld).bound placeholder
  · intro entry delivery hheld
    exact (hobject.lane entry hheld).delivered delivery
  · intro asked hmem
    obtain ⟨before, after, hsplit⟩ := List.append_of_mem hmem
    exact hlasting before asked after hsplit

end

/-! ## An approved workflow -/

def plannedFirst : Workflows := Dict.empty.set "w-1" firstRecord

def approvedFirst (placeholder : ResultPlaceholder) : Workflows :=
  Dict.empty.set "w-1" (approvedWith firstRecord placeholder)

def firstBound : ResultPlaceholder :=
  ⟨.bound, 2, some 7, 0, some 1, some 2, some firstPlaceholderDigest.val⟩

theorem valid_approvedFirst {placeholder : ResultPlaceholder}
    (hstate : ∀ location, @validateState sampleTexts (approvedWith firstRecord placeholder)
      location = .ok ()) :
    @validateDocument sampleTexts (approvedFirst placeholder) = .ok () := by
  let _ := sampleTexts
  exact validateDocument_single (sound_firstApproved hstate)

theorem get?_single {record : WorkflowRecord} (workflowId : String) :
    (Dict.empty.set "w-1" record : Workflows).get? workflowId =
      if workflowId = "w-1" then some record else none := by
  rw [Dict.get?_set]
  split
  · rfl
  · rfl

theorem others_approve :
    Others (holding plannedFirst) (holding (approvedFirst requiredPlaceholder)) := by
  refine ⟨rfl, fun _ hknown => hknown, fun workflowId hheld => .inl ?_, fun workflowId => ?_⟩
  · simp only [holding, plannedFirst, approvedFirst, get?_single] at hheld ⊢
    split at hheld
    · rename_i hown
      simp [hown]
    · exact absurd rfl hheld
  · simp only [holding, plannedFirst, approvedFirst, get?_single]
    split
    · exact .inr ⟨rfl, rfl, rfl, rfl, ⟨0, _, rfl, rfl⟩, rfl⟩
    · trivial

theorem unapproved_plannedFirst : Unapproved "w-1" (holding plannedFirst) := by
  refine ⟨fun _ => by decide, fun entry hheld => ?_, by simp [holding]⟩
  simp only [holding, plannedFirst, get?_single, if_true, Option.some.injEq] at hheld
  obtain rfl := hheld
  exact ⟨rfl, rfl, .inl rfl⟩

/-- A reply to a send with the id of its message. -/
def sentReply : TransportAnswer := .replied 200 (.object ⟨some true, none, none, some 7⟩)

/-- The placeholder is sent, and bound to the message of its reply. -/
theorem mayCome_bound : letI := sampleTexts
    MayCome "token" anyQuestion (ensureResultPlaceholders "token")
      (holding (approvedFirst requiredPlaceholder)) ()
      { holding (approvedFirst firstBound) with
        shown := [⟨.placeholder "w-1", 2, fullText (renderPlaceholderText "w-1")⟩] } := by
  let _ := sampleTexts
  have hcycles : ∀ task change, anyQuestion (.cycle task change) := fun _ _ => trivial
  have hrequired : validateDocument (approvedFirst requiredPlaceholder) = .ok () :=
    valid_approvedFirst fun _ => rfl
  have hsending : validateDocument (approvedFirst firstSending) = .ok () :=
    valid_approvedFirst fun _ => rfl
  have hlist : MayCome "token" anyQuestion eligiblePlaceholderWorkflowIds
      (holding (approvedFirst requiredPlaceholder)) ["w-1"]
      (holding (approvedFirst requiredPlaceholder)) :=
    mayCome_eligible hcycles hrequired (by decide +kernel)
  have hclaim : MayCome "token" anyQuestion (claimOnePlaceholder "w-1")
      (holding (approvedFirst requiredPlaceholder)) (some firstClaim)
      (holding (approvedFirst firstSending)) :=
    mayCome_claim hcycles 1 hrequired (changeOne_eq rfl claimPlaceholder_first) hsending
  have hsend : MayCome "token" anyQuestion (sendMessageOnce "token" (.placeholder "w-1")
      firstClaim.chatId firstClaim.text) (holding (approvedFirst firstSending))
      ⟨.applied, some 7⟩ { holding (approvedFirst firstSending) with
        shown := [⟨.placeholder "w-1", 2, fullText (renderPlaceholderText "w-1")⟩] } := by
    unfold sendMessageOnce
    rw [if_neg fits_firstClaim]
    exact (mayCome_shown trivial sentReply (by decide)).bind (mayCome_pure _)
  have hrecorded : recordPlaceholder firstClaim.digest ⟨.applied, some 7⟩ 2
      (approvedWith firstRecord firstSending) = some (approvedWith firstRecord firstBound, true) :=
    recordPlaceholder_eq_some.mpr ⟨firstSending, rfl, rfl, rfl, rfl, rfl⟩
  have hset : (approvedFirst firstSending).set "w-1" (approvedWith firstRecord firstBound) =
      approvedFirst firstBound := rfl
  have hchange : changeOne "w-1" true (recordPlaceholder firstClaim.digest
      ⟨.applied, some 7⟩ 2) (approvedFirst firstSending) =
        ⟨some (approvedFirst firstBound), true⟩ := by
    rw [changeOne_eq rfl hrecorded, hset]
  have hbound : validateDocument (approvedFirst firstBound) = .ok () :=
    valid_approvedFirst fun _ => rfl
  have hrecord : MayCome "token" anyQuestion (recordPlaceholderOutcome "w-1"
      firstClaim.digest ⟨.applied, some 7⟩) { holding (approvedFirst firstSending) with
        shown := [⟨.placeholder "w-1", 2, fullText (renderPlaceholderText "w-1")⟩] } true
      { holding (approvedFirst firstBound) with
        shown := [⟨.placeholder "w-1", 2, fullText (renderPlaceholderText "w-1")⟩] } :=
    mayCome_recorded hcycles 2 hsending hchange hbound
  have hensure : MayCome "token" anyQuestion (ensurePlaceholder "token" "w-1")
      (holding (approvedFirst requiredPlaceholder)) true
      { holding (approvedFirst firstBound) with
        shown := [⟨.placeholder "w-1", 2, fullText (renderPlaceholderText "w-1")⟩] } :=
    hclaim.bind (hsend.bind hrecord)
  exact hlist.bind (hensure.bind (mayCome_pure ()))

/-- A workflow is approved, and its placeholder sent. -/
theorem presented_by_one_bound : letI := sampleTexts
    letI := sampleWording
    letI := sampleFolding
    ∃ trace final, Runs "token" (holding plannedFirst) trace final ∧
      final.workflows = approvedFirst firstBound ∧
      PresentedByOne "token" "w-1" trace final := by
  let _ := sampleTexts
  let _ := sampleWording
  let _ := sampleFolding
  obtain ⟨trace, -, hexecutes⟩ := mayCome_bound
  have hrun : Runs "token" (holding plannedFirst) ([] ++ trace) _ :=
    .call (.between .start others_approve) .placeholders hexecutes
  exact ⟨_, _, hrun, rfl, presented_by_one hrun unapproved_plannedFirst⟩

end DodgingInfinity.TelegramOperator
