import DodgingInfinity.TelegramOperator.FlightRuns

/-!
# Processes and the records in flight

The sweep, one claim with its send and outcome, and the rounds made of them, from the start
of each process to its end or its crash.
-/

namespace DodgingInfinity.TelegramOperator

open WorkflowAuthority

section

variable [TextDigest] {token workflowId named digest : String} {origin : Workflows}
  {now next : RememberedWorld} {heard : ResultHeard}

/-! ## What is saved -/

omit [TextDigest] in
/-- A change that puts nothing in flight or in doubt. -/
theorem Flight.settles (h : Flight origin now) (heard : ResultHeard) {changed : Workflows}
    (hsending : ∀ workflowId, HeldAs .sending changed workflowId →
      HeldAs .sending now.1.workflows workflowId)
    (hdoubt : ∀ workflowId, InDoubt changed workflowId → InDoubt now.1.workflows workflowId) :
    Flight origin ({ now.1 with workflows := changed }, heard :: now.2) where
  one hprompt first second hfirst hsecond :=
    h.one hprompt.1 first second (hsending first hfirst) (hsending second hsecond)
  doubted workflowId hheld := by
    rcases h.doubted workflowId (hdoubt workflowId hheld) with hbegan | hclaimed
    · exact .inl hbegan
    · obtain ⟨claim, hmem, hsaved⟩ := hclaimed
      exact .inr ⟨claim, List.mem_cons_of_mem _ hmem, hsaved⟩

omit [TextDigest] in
theorem Flight.reads (h : Flight origin now) (heard : ResultHeard) :
    Flight origin (now.1, heard :: now.2) :=
  h.settles heard (fun _ hheld => hheld) fun _ hheld => hheld

omit [TextDigest] in
/-- The world as it was, and a silent answer. -/
theorem Silent.same (h : Silent heard) : SamePlaceholders now (now.1, heard :: now.2) :=
  ⟨fun _ => rfl, heard, rfl, h⟩

variable {workflows : Workflows} {entry : WorkflowRecord}

omit [TextDigest] in
theorem placeholderIn_set : placeholderIn (workflows.set named entry) workflowId =
      if workflowId = named then entry.resultPlaceholder
      else placeholderIn workflows workflowId := by
  unfold placeholderIn
  rw [Dict.get?_set]
  split
  · rfl
  · rfl

omit [TextDigest] in
/-- A change of one record that leaves its placeholder indefinite only where it was in
doubt. -/
theorem doubts_changeOne {β : Type} {task : CycleTask} {unchanged : β}
    {body : Nat → WorkflowRecord → Option (WorkflowRecord × β)}
    (hbody : ∀ time entry changed value, body time entry = some (changed, value) →
      ∀ placeholder, changed.resultPlaceholder = some placeholder →
        placeholder.state = .indefinite → ∃ before, entry.resultPlaceholder = some before ∧
          (before.state = .sending ∨ before.state = .indefinite)) :
    Doubts (.cycle task fun time workflows =>
      (changeOne named unchanged (body time) workflows).saved) := by
  intro time workflows changed hsaved workflowId hheld
  dsimp only at hsaved
  rcases @changeOne_cases β named unchanged (body time) workflows with
    ⟨-, hnone⟩ | ⟨entry, after, value, hentry, hchange, hsome⟩
  · rw [hnone] at hsaved
    cases hsaved
  · rw [hsome] at hsaved
    obtain rfl := Option.some.inj hsaved
    obtain ⟨placeholder, hplaceholder, hstate⟩ := hheld
    rw [placeholderIn_set] at hplaceholder
    split at hplaceholder
    · rename_i hown
      obtain ⟨before, hbefore, hdoubt⟩ :=
        hbody time entry after value hchange placeholder hplaceholder hstate
      have hin : placeholderIn workflows workflowId = some before := by
        unfold placeholderIn
        rw [hown, hentry]
        exact hbefore
      exact hdoubt.imp (fun h => ⟨before, hin, h⟩) fun h => ⟨before, hin, h⟩
    · exact .inr ⟨placeholder, hplaceholder, hstate⟩

/-! ## The sweep -/

variable {placeholder : ResultPlaceholder}

omit [TextDigest] in
theorem failSending_placeholder (entry : WorkflowRecord)
    (h : (failSending entry).resultPlaceholder = some placeholder) :
    placeholder.state ≠ .sending ∧ ∃ before, entry.resultPlaceholder = some before ∧
      (before = placeholder ∨ before.state = .sending) := by
  unfold failSending at h
  split at h
  · rename_i hsending
    obtain ⟨before, hbefore, hstate⟩ := isSending_iff.mp hsending
    simp only [hbefore, Option.map_some, Option.some.injEq] at h
    subst h
    exact ⟨by simp, before, hbefore, .inr hstate⟩
  · rename_i hnot
    refine ⟨fun hstate => hnot (isSending_iff.mpr ⟨placeholder, h, hstate⟩), placeholder, h,
      .inl rfl⟩

omit [TextDigest] in
theorem placeholderIn_failSending
    (h : placeholderIn (workflows.mapValues fun _ => failSending) workflowId = some placeholder) :
    placeholder.state ≠ .sending ∧ ∃ before, placeholderIn workflows workflowId = some before ∧
        (before = placeholder ∨ before.state = .sending) := by
  unfold placeholderIn at h ⊢
  rw [Dict.get?_mapValues] at h
  obtain ⟨changed, hchanged, hplaceholder⟩ := Option.bind_eq_some_iff.mp h
  obtain ⟨entry, hentry, rfl⟩ := Option.map_eq_some_iff.mp hchanged
  rw [hentry]
  exact failSending_placeholder entry hplaceholder

omit [TextDigest] in
theorem inDoubt_failSending (h : InDoubt (workflows.mapValues fun _ => failSending) workflowId) :
    InDoubt workflows workflowId := by
  rcases h with ⟨placeholder, hplaceholder, hstate⟩ | ⟨placeholder, hplaceholder, hstate⟩
  · exact absurd hstate (placeholderIn_failSending hplaceholder).1
  · obtain ⟨-, before, hbefore, rfl | hsending⟩ := placeholderIn_failSending hplaceholder
    · exact .inr ⟨before, hbefore, hstate⟩
    · exact .inl ⟨before, hbefore, hsending⟩

theorem flying_reconcile : Flying token origin (Flight origin) reconcileSendingPlaceholders
      fun _ => Idle origin := by
  refine Procedure.Triple.bind (α := Option Unit) ?_ fun _ => Procedure.triple_pure _ fun _ _ h => h
  refine triple_cycle stable_flight (fun _ h => ⟨h, ?_⟩) ?_ ?_ ?_
  · intro time workflows changed hsaved workflowId hheld
    dsimp only at hsaved
    split at hsaved
    · obtain rfl := Option.some.inj hsaved
      exact inDoubt_failSending (.inr hheld)
    · cases hsaved
  · intro now change h
    exact ⟨h.reads _, fun _ hresolved => by cases hresolved⟩
  · intro now time change h hsame _
    refine ⟨h.reads _, fun _ _ workflowId hheld => ?_⟩
    obtain ⟨placeholder, hplaceholder, hstate⟩ := hheld
    obtain ⟨entry, hentry, hheld⟩ := Option.bind_eq_some_iff.mp hplaceholder
    have hany : now.1.workflows.values.any isSending = true :=
      List.any_eq_true.mpr ⟨entry, (Dict.mem_values_iff ..).mpr ⟨workflowId, hentry⟩,
        isSending_iff.mpr ⟨placeholder, hheld, hstate⟩⟩
    dsimp only at hsame
    rw [if_pos hany] at hsame
    cases hsame
  · intro now time change changed h hsaved _
    dsimp only at hsaved
    split at hsaved
    · obtain rfl := Option.some.inj hsaved
      have hnone : ∀ workflowId, ¬ HeldAs .sending
          (now.1.workflows.mapValues fun _ => failSending) workflowId := by
        rintro workflowId ⟨placeholder, hplaceholder, hstate⟩
        exact (placeholderIn_failSending hplaceholder).1 hstate
      exact ⟨h.settles _ (fun workflowId hheld => absurd hheld (hnone workflowId))
        (fun _ => inDoubt_failSending), fun _ _ => hnone⟩
    · cases hsaved

/-! ## A claim, its send and its outcome -/

/-- What a claim comes to: nothing, or its own record in flight. -/
def MayHold (origin : Workflows) (workflowId : String) (claim : Option PlaceholderClaim)
    (now : RememberedWorld) : Prop :=
  (claim = none → Idle origin now) ∧
    ∀ claimed, claim = some claimed → Holds origin workflowId claimed.digest now

omit [TextDigest] in
theorem Idle.mayHold (h : Idle origin now) (hsilent : Silent heard) :
    MayHold origin workflowId none (now.1, heard :: now.2) :=
  ⟨fun _ => hsilent.same.idle h, fun _ hnone => by cases hnone⟩

variable {changed : WorkflowRecord} {time : Nat}

/-- A claim saved with nothing in flight puts its record alone in flight. -/
theorem Idle.claimed (h : Idle origin now)
    {claim : Option PlaceholderClaim}
    (hclaim : claimPlaceholder workflowId time entry = some (changed, claim))
    (hsaved : claimSaved heard.1 heard.2 = some workflowId) : MayHold origin workflowId claim
      ({ now.1 with workflows := now.1.workflows.set workflowId changed },
        heard :: now.2) := by
  obtain ⟨placeholder, -, -, hchanged, rfl⟩ := claimPlaceholder_eq_some.mp hclaim
  have hdigest : ∀ held, changed.resultPlaceholder = some held →
      held.textDigest = some (textDigest (renderPlaceholderText workflowId)) := by
    intro held hheld
    rw [hchanged] at hheld
    obtain rfl := Option.some.inj hheld
    rfl
  have honly : Prompt (heard :: now.2) → ∀ other held,
      placeholderIn (now.1.workflows.set workflowId changed) other = some held →
      held.state = .sending → other = workflowId ∧
        held.textDigest = some (textDigest (renderPlaceholderText workflowId)) := by
    intro hprompt other held hheld hstate
    rw [placeholderIn_set] at hheld
    split at hheld
    · rename_i hown
      exact ⟨hown, hdigest held hheld⟩
    · exact absurd ⟨held, hheld, hstate⟩ (h.idle hprompt.1 (hprompt.2 workflowId hsaved) other)
  refine ⟨fun hnone => (by cases hnone), fun claimed hclaimed => ?_⟩
  obtain rfl := Option.some.inj hclaimed
  refine ⟨⟨?_, ?_⟩, honly⟩
  · rintro hprompt first second ⟨_, hfirst, hfirstState⟩ ⟨_, hsecond, hsecondState⟩
    rw [(honly hprompt first _ hfirst hfirstState).1,
      (honly hprompt second _ hsecond hsecondState).1]
  · intro other hdoubt
    by_cases hown : other = workflowId
    · exact .inr ⟨heard, List.mem_cons_self, by rw [hsaved, hown]⟩
    · have hbefore : InDoubt now.1.workflows other := by
        unfold InDoubt HeldAs at hdoubt ⊢
        simpa only [placeholderIn_set, if_neg hown] using hdoubt
      exact (h.toFlight.reads heard).doubted other hbefore

theorem flying_claimOnePlaceholder :
    Flying token origin (Idle origin) (claimOnePlaceholder workflowId)
      (MayHold origin workflowId) := by
  have hcycle : Flying token origin (Idle origin) (cycle (.claimPlaceholder workflowId) fun now =>
        changeOne workflowId none (claimPlaceholder workflowId now))
      fun claimed => MayHold origin workflowId claimed.join := by
    refine triple_cycle stable_idle (fun _ h => ⟨h.toFlight, ?_⟩) ?_ ?_ ?_
    · apply doubts_changeOne
      intro time entry changed claim hclaim placeholder hchanged hstate
      obtain ⟨_, -, -, rfl, -⟩ := claimPlaceholder_eq_some.mp hclaim
      obtain rfl := Option.some.inj hchanged
      cases hstate
    · intro now change h
      exact h.mayHold ⟨rfl, fun _ => rfl⟩
    · intro now time change h hsame hunchanged
      rcases @changeOne_cases _ workflowId none (claimPlaceholder workflowId time)
        now.1.workflows with ⟨-, hnone⟩ | ⟨_, _, _, -, -, hsome⟩
      · rw [hnone]
        refine h.mayHold ⟨?_, fun _ => rfl⟩
        simp [claimSaved, readBy, hunchanged]
      · rw [hsome] at hsame
        cases hsame
    · intro now time change changed h hsaved hchange
      rcases @changeOne_cases _ workflowId none (claimPlaceholder workflowId time)
        now.1.workflows with ⟨-, hnone⟩ | ⟨entry, after, claim, hheld, hclaim, hsome⟩
      · rw [hnone] at hsaved
        cases hsaved
      · rw [hsome] at hsaved ⊢
        obtain rfl := Option.some.inj hsaved
        refine h.claimed hclaim ?_
        simp [claimSaved, readBy, hchange, CycleTask.claims]
  exact hcycle.bind fun claimed => Procedure.triple_pure _ fun _ _ h => h

theorem flying_sendMessageOnce {chatId : Nat} {text : String} :
    Flying token origin (Holds origin workflowId digest)
      (sendMessageOnce token (.placeholder workflowId) chatId text)
      fun _ => Holds origin workflowId digest := by
  unfold sendMessageOnce
  refine Procedure.triple_ite _ (fun _ => Procedure.triple_pure _ fun _ _ h => h) fun _ => ?_
  refine Procedure.Triple.bind (triple_call stable_holds (fun _ h => ⟨h.toFlight, trivial⟩) ?_)
    fun _ => Procedure.triple_pure _ fun _ _ h => h
  intro now answer next h hanswer
  have hapart : Apart (.call (.placeholder workflowId)
    (.sendMessage chatId (fullText text))) := trivial
  exact (hapart.answered hanswer).holds h

omit [TextDigest] in
theorem placeholderAfter_state (time : Nat) (outcome : SendOnceOutcome)
    (placeholder : ResultPlaceholder) :
    (placeholderAfter time outcome placeholder).state ≠ .sending := by
  unfold placeholderAfter
  split
  · split <;> simp
  · simp
  · simp
  · simp

variable {outcome : SendOnceOutcome}

omit [TextDigest] in
/-- The outcome of a claim saved: nothing is in flight any more. -/
theorem Holds.settled (h : Holds origin workflowId digest now) {value : Bool}
    (hheld : now.1.workflows.get? workflowId = some entry)
    (hrecorded : recordPlaceholder digest outcome time entry = some (changed, value)) :
    Idle origin ({ now.1 with workflows := now.1.workflows.set workflowId changed },
      heard :: now.2) := by
  obtain ⟨placeholder, hplaceholder, hstate, -, rfl, -⟩ :=
    recordPlaceholder_eq_some.mp hrecorded
  have hbefore : HeldAs .sending now.1.workflows workflowId := by
    refine ⟨placeholder, ?_, hstate⟩
    unfold placeholderIn
    rw [hheld]
    exact hplaceholder
  have hown : ∀ {state other}, HeldAs state (now.1.workflows.set workflowId { entry with
      resultPlaceholder := some (placeholderAfter time outcome placeholder) }) other →
      other = workflowId ∧ state ≠ .sending ∨
        other ≠ workflowId ∧ HeldAs state now.1.workflows other := by
    rintro state other ⟨held, hplaced, rfl⟩
    rw [placeholderIn_set] at hplaced
    split at hplaced
    · rename_i hsame
      obtain rfl := Option.some.inj hplaced
      exact .inl ⟨hsame, placeholderAfter_state time outcome placeholder⟩
    · rename_i hother
      exact .inr ⟨hother, held, hplaced, rfl⟩
  constructor
  · apply h.toFlight.settles
    · intro other hsending
      rcases hown hsending with ⟨-, hnot⟩ | ⟨-, hsame⟩
      · exact absurd rfl hnot
      · exact hsame
    · intro other hdoubt
      rcases hdoubt with hsending | hindefinite
      · rcases hown hsending with ⟨-, hnot⟩ | ⟨-, hsame⟩
        · exact absurd rfl hnot
        · exact .inl hsame
      · rcases hown hindefinite with ⟨rfl, -⟩ | ⟨-, hsame⟩
        · exact .inl hbefore
        · exact .inr hsame
  · intro hprompt _ other hsending
    rcases hown hsending with ⟨-, hnot⟩ | ⟨hother, held, hplaced, hstate⟩
    · exact hnot rfl
    · exact hother (h.only hprompt.1 other held hplaced hstate).1

/-- An outcome heard of a claim: its record, if it is in flight at all, is the one that is
settled. -/
theorem flying_recordPlaceholderOutcome : Flying token origin (Holds origin workflowId digest)
      (recordPlaceholderOutcome workflowId digest outcome) fun _ => Idle origin := by
  have hcycle : Flying token origin (Holds origin workflowId digest)
      (cycle (.recordPlaceholder workflowId) fun now =>
        changeOne workflowId true (recordPlaceholder digest outcome now))
      fun _ => Idle origin := by
    refine triple_cycle stable_holds (fun _ h => ⟨h.toFlight, ?_⟩) ?_ ?_ ?_
    · apply doubts_changeOne
      intro time entry changed value hrecorded _ _ _
      obtain ⟨placeholder, hplaceholder, hstate, -⟩ := recordPlaceholder_eq_some.mp hrecorded
      exact ⟨placeholder, hplaceholder, .inl hstate⟩
    · intro now change h
      exact ⟨h.toFlight.reads _, fun _ hresolved => by cases hresolved⟩
    · intro now time change h hsame _
      refine ⟨h.toFlight.reads _, fun hprompt _ other hother => ?_⟩
      obtain ⟨placeholder, hplaceholder, hstate⟩ := hother
      obtain ⟨rfl, hdigest⟩ := h.only hprompt.1 other placeholder hplaceholder hstate
      obtain ⟨entry, hentry, hheld⟩ := Option.bind_eq_some_iff.mp hplaceholder
      have hrecorded := (@recordPlaceholder_eq_some _ outcome time _ _ _).mpr
        ⟨placeholder, hheld, hstate, hdigest, rfl, rfl⟩
      rcases @changeOne_cases _ other true (recordPlaceholder digest outcome time)
        now.1.workflows with ⟨hnone, -⟩ | ⟨_, _, _, -, -, hsome⟩
      · rw [hentry, Option.bind_some, hrecorded] at hnone
        cases hnone
      · rw [hsome] at hsame
        cases hsame
    · intro now time change changed h hsaved _
      rcases @changeOne_cases _ workflowId true (recordPlaceholder digest outcome time)
        now.1.workflows with ⟨-, hnone⟩ | ⟨entry, after, value, hheld, hrecorded, hsome⟩
      · rw [hnone] at hsaved
        cases hsaved
      · rw [hsome] at hsaved
        obtain rfl := Option.some.inj hsaved
        exact h.settled hheld hrecorded
  exact hcycle.bind fun recorded => Procedure.triple_pure _ fun _ _ h => h

theorem flying_ensurePlaceholder (named : String) :
    Flying token origin (Idle origin) (ensurePlaceholder token named)
      fun _ => Idle origin := by
  refine flying_claimOnePlaceholder.bind fun claim => ?_
  cases claim with
  | none => exact Procedure.triple_pure _ fun _ _ h => h.1 rfl
  | some claimed =>
      have hsend : Flying token origin (MayHold origin named (some claimed))
          (sendMessageOnce token (.placeholder named) claimed.chatId claimed.text)
          fun _ => Holds origin named claimed.digest :=
        Procedure.Triple.weaken flying_sendMessageOnce fun _ _ h => h.2 claimed rfl
      exact hsend.bind fun outcome => flying_recordPlaceholderOutcome

/-! ## Processes -/

theorem flying_ensureResultPlaceholders :
    Flying token origin (Idle origin) (ensureResultPlaceholders token)
      fun _ => Idle origin := by
  have hlist : AsksApart token eligiblePlaceholderWorkflowIds :=
    (asksApart_cycle rfl fun _ _ _ hsaved => by cases hsaved).bind fun _ => asksApart_pure _
  refine hlist.idle.bind fun eligible => ?_
  induction eligible with
  | nil => exact Procedure.triple_pure _ fun _ _ h => h
  | cons named rest ih =>
      exact (flying_ensurePlaceholder named).bind fun continues =>
        Procedure.triple_ite _ (fun _ => ih) fun _ => Procedure.triple_pure _ fun _ _ h => h

variable [Wording] [Casefolding]

theorem flying_runPasses (rounds : Nat) :
    Flying token origin (Idle origin) (runPasses token rounds) fun _ => Idle origin := by
  have hpass : Flying token origin (Idle origin) (runPass token) fun _ => Idle origin :=
    flying_ensureResultPlaceholders.bind fun _ =>
      asksApart_deliverResultEdits.idle.bind fun _ => asksApart_deliverPendingResults.idle
  induction rounds with
  | zero => exact Procedure.triple_pure _ fun _ _ h => h
  | succ rounds ih => exact hpass.bind fun _ => ih

theorem flying_run (rounds : Nat) :
    Flying token origin (Flight origin) (run token rounds) fun _ => Idle origin :=
  flying_reconcile.bind fun _ => flying_runPasses rounds

/-- Processes one after another, each finished or crashed, with what others do
meanwhile. -/
abbrev Processes (token : String) (origin : ResultWorld) (trace : List ResultAsked)
    (final : ResultWorld) : Prop :=
  Calls (resultSurroundings token) Others (fun program => ∃ rounds, program = run token rounds ())
    origin trace final

/-- What holds of the records in flight in a run of processes. -/
structure OneInFlight (origin : ResultWorld) (trace : List ResultAsked)
    (final : ResultWorld) : Prop where
  /-- At most one record is in flight. -/
  one : AtMostOneSending final.workflows
  /-- What is asked, the sweep after a crash included, makes one record indefinite at
  most. -/
  loses : ∀ asked ∈ trace, ∀ first second, ¬ HeldAs .indefinite asked.before.workflows first →
    HeldAs .indefinite asked.after.workflows first →
    ¬ HeldAs .indefinite asked.before.workflows second →
    HeldAs .indefinite asked.after.workflows second → first = second
  /-- Only a record whose claim was saved becomes indefinite. -/
  claimed : ∀ workflowId, HeldAs .indefinite final.workflows workflowId →
    InDoubt origin.workflows workflowId ∨ ClaimedIn (historyOf trace) workflowId

variable {history : List ResultHeard}

omit [TextDigest] [Wording] [Casefolding] in
theorem Prompt.earlier {later : List ResultHeard} (h : Prompt (later ++ history)) :
    Prompt history := by
  induction later with
  | nil => exact h
  | cons heard later ih => exact ih h.1

omit [Wording] [Casefolding] in
theorem Doubts.answered {question : ResultQuestion} (h : Doubts question)
    {answer : ResultAnswer question} {world after : ResultWorld}
    (hanswer : (resultSurroundings token).answers world question answer after)
    (hheld : HeldAs .indefinite after.workflows workflowId) :
    InDoubt world.workflows workflowId := by
  cases question with
  | call purpose request =>
      rcases hanswer with ⟨rfl, -⟩ | ⟨rfl, -⟩ <;> exact .inr hheld
  | cycle task change =>
      rcases hanswer with ⟨-, rfl⟩ | ⟨time, -, -, hchanged⟩
      · exact .inr hheld
      · split at hchanged
        · subst hchanged
          exact .inr hheld
        · rename_i changed hsome
          obtain ⟨-, rfl⟩ := hchanged
          exact h time _ changed hsome workflowId hheld

omit [TextDigest] [Wording] [Casefolding] in
theorem prompt_of_unclaimed
    (h : ∀ heard ∈ history, claimSaved heard.1 heard.2 = none) : Prompt history := by
  induction history with
  | nil => trivial
  | cons heard rest ih =>
      refine ⟨ih fun other hmem => h other (List.mem_cons_of_mem _ hmem), fun named hsaved => ?_⟩
      rw [h heard List.mem_cons_self] at hsaved
      cases hsaved

/-- In every run of processes whose claims each follow a recorded sweep and the recorded
outcomes since, at most one record is in flight. -/
theorem at_most_one_in_flight {origin final : ResultWorld} {trace : List ResultAsked}
    (hrun : Processes token origin trace final) (horigin : AtMostOneSending origin.workflows)
    (hprompt : Prompt (historyOf trace)) : OneInFlight origin trace final := by
  have hsafe : ∀ program (now : RememberedWorld), (∃ rounds, program = run token rounds ()) →
      Flight origin.workflows now → program.Safe (resultSurroundings token).remembering
        (fun now question => Flight origin.workflows now ∧ Doubts question)
        (fun _ => Flight origin.workflows) now := by
    rintro program now ⟨rounds, rfl⟩ h
    refine (flying_run rounds () now h).mono ?_
    rintro ⟨result, after⟩ world hend
    cases result with
    | ok value => exact Idle.toFlight hend
    | error fault => exact Idle.toFlight hend
  have hothers : ∀ now next : RememberedWorld, Flight origin.workflows now →
      Drifts token now next → Flight origin.workflows next := stable_flight
  obtain ⟨hflight, hasked⟩ := Calls.ended (Flight origin.workflows) hsafe hothers hothers
    (fun _ _ hallowed => hallowed.1) hrun ⟨fun _ => horigin, fun _ hdoubt => .inl hdoubt⟩
  refine ⟨hflight.one hprompt, ?_, fun workflowId hheld => hflight.doubted workflowId (.inr hheld)⟩
  intro asked hmem first second hfirst hfirstAfter hsecond hsecondAfter
  obtain ⟨before, after, rfl⟩ := List.append_of_mem hmem
  obtain ⟨⟨hbefore, hdoubts⟩, hanswer⟩ := hasked before asked after rfl
  rw [historyOf_append, historyOf_cons, List.append_assoc] at hprompt
  have hone := hbefore.one hprompt.earlier.earlier
  have hsending : ∀ workflowId, ¬ HeldAs .indefinite asked.before.workflows workflowId →
      HeldAs .indefinite asked.after.workflows workflowId →
      HeldAs .sending asked.before.workflows workflowId :=
    fun workflowId hnot hheld => (hdoubts.answered hanswer hheld).resolve_right hnot
  exact hone first second (hsending first hfirst hfirstAfter) (hsending second hsecond hsecondAfter)

end

/-! ## Two records in flight -/

theorem valid_twoApproved {first second : ResultPlaceholder}
    (hfirst : ∀ location, @validateState sampleTexts (approvedWith firstRecord first)
      location = .ok ())
    (hsecond : ∀ location, @validateState sampleTexts (approvedWith secondRecord second)
      location = .ok ()) :
    @validateDocument sampleTexts (twoApproved first second) = .ok () := by
  let _ := sampleTexts
  exact validateDocument_pair (sound_firstApproved hfirst) (sound_secondApproved hsecond)

def bothRequired : Workflows := twoApproved requiredPlaceholder requiredPlaceholder

def firstInFlight : Workflows := twoApproved firstSending requiredPlaceholder

def bothInFlight : Workflows := twoApproved firstSending secondSending

def firstLost : Workflows :=
  twoApproved (sentPlaceholder .indefinite firstPlaceholderDigest) requiredPlaceholder

theorem claims_first : @changeOne _ "w-1" none (@claimPlaceholder sampleTexts "w-1" 1)
    bothRequired = ⟨some firstInFlight, some firstClaim⟩ := by
  let _ := sampleTexts
  have hset : bothRequired.set "w-1" (approvedWith firstRecord firstSending) = firstInFlight := rfl
  rw [changeOne_eq rfl claimPlaceholder_first, hset]

theorem claims_second : @changeOne _ "w-2" none (@claimPlaceholder sampleTexts "w-2" 1)
    firstInFlight = ⟨some bothInFlight, some secondClaim⟩ := by
  let _ := sampleTexts
  have hset : firstInFlight.set "w-2" (approvedWith secondRecord secondSending) =
      bothInFlight := rfl
  rw [changeOne_eq rfl claimPlaceholder_second, hset]

theorem sending_firstInFlight {workflowId : String} {placeholder : ResultPlaceholder}
    (h : placeholderIn firstInFlight workflowId = some placeholder)
    (hstate : placeholder.state = .sending) : workflowId = "w-1" := by
  unfold firstInFlight twoApproved at h
  rw [placeholderIn_set, placeholderIn_set] at h
  split at h
  · obtain rfl := Option.some.inj h
    cases hstate
  · split at h
    · rename_i hown
      exact hown
    · cases h

def isCycleQuestion : ResultQuestion → Prop
  | .cycle _ _ => True
  | .call _ _ => False

theorem valid_bothRequired : @validateDocument sampleTexts bothRequired = .ok () :=
  valid_twoApproved (fun _ => rfl) fun _ => rfl

theorem valid_firstInFlight : @validateDocument sampleTexts firstInFlight = .ok () :=
  valid_twoApproved (fun _ => rfl) fun _ => rfl

variable {asks : ResultQuestion → Prop}

theorem mayCome_sweepBoth
    (hcycles : ∀ task change, asks (.cycle task change)) : letI := sampleTexts
    MayCome "token" asks reconcileSendingPlaceholders (holding bothRequired) ()
      (holding bothRequired) := by
  let _ := sampleTexts
  exact mayCome_sweepNone hcycles valid_bothRequired (by decide +kernel)

theorem mayCome_firstClaim
    (hcycles : ∀ task change, asks (.cycle task change)) : letI := sampleTexts
    MayCome "token" asks eligiblePlaceholderWorkflowIds (holding bothRequired)
        ["w-1", "w-2"] (holding bothRequired) ∧
      MayCome "token" asks (claimOnePlaceholder "w-1") (holding bothRequired)
        (some firstClaim) (holding firstInFlight) := by
  let _ := sampleTexts
  exact ⟨mayCome_eligible hcycles valid_bothRequired (by decide +kernel),
    mayCome_claim hcycles 1 valid_bothRequired claims_first valid_firstInFlight⟩

/-- A pass whose first outcome could not be recorded. -/
theorem mayCome_unrecordedPass : letI := sampleTexts
    MayCome "token" anyQuestion (ensureResultPlaceholders "token") (holding bothRequired) ()
      (holding firstInFlight) := by
  let _ := sampleTexts
  have hcycles : ∀ task change, anyQuestion (.cycle task change) := fun _ _ => trivial
  obtain ⟨hlist, hclaim⟩ := mayCome_firstClaim hcycles
  have hsend : MayCome "token" anyQuestion (sendMessageOnce "token" (.placeholder "w-1")
      firstClaim.chatId firstClaim.text) (holding firstInFlight) ⟨.indefinite, none⟩
      (holding firstInFlight) := by
    unfold sendMessageOnce
    rw [if_neg fits_firstClaim]
    exact (mayCome_unshown trivial (.osError false) (by decide)).bind (mayCome_pure _)
  have hrecord : MayCome "token" anyQuestion (recordPlaceholderOutcome "w-1"
      firstClaim.digest ⟨.indefinite, none⟩) (holding firstInFlight) false
      (holding firstInFlight) := mayCome_unrecorded hcycles _ _ _
  have hensure : MayCome "token" anyQuestion (ensurePlaceholder "token" "w-1")
      (holding bothRequired) false (holding firstInFlight) :=
    hclaim.bind (hsend.bind hrecord)
  exact hlist.bind (hensure.bind (mayCome_pure ()))

/-- The deliveries of a pass that finds nothing to deliver. -/
theorem mayCome_noDeliveries : letI := sampleTexts
    letI := sampleWording
    letI := sampleFolding
    MayCome "token" anyQuestion (deliverResultEdits "token") (holding firstInFlight) ()
        (holding firstInFlight) ∧
      MayCome "token" anyQuestion (deliverPendingResults "token") (holding firstInFlight) ()
        (holding firstInFlight) := by
  let _ := sampleTexts
  let _ := sampleWording
  let _ := sampleFolding
  have hedits : chosenIds editDeliveryClaimable firstInFlight = [] := by decide +kernel
  constructor
  · have hlist : MayCome "token" anyQuestion editDeliveryWorkflowIds (holding firstInFlight)
        [] (holding firstInFlight) := by
      rw [← hedits]
      exact (mayCome_read trivial 0 valid_firstInFlight rfl).bind (mayCome_pure _)
    exact hlist.bind (mayCome_pure ())
  · have hreserve : MayCome "token" anyQuestion reserveResults (holding firstInFlight) []
        (holding firstInFlight) :=
      mayCome_noneReserved (fun _ _ => trivial) valid_firstInFlight (by decide +kernel)
    exact hreserve.bind (mayCome_pure ())

/-- A record is claimed although the outcome of the one before is not recorded, and a
record is given up although nothing was sent for it. -/
theorem claims_while_unresolved : letI := sampleTexts
    letI := sampleWording
    letI := sampleFolding
    (∃ trace final, Processes "token" (holding bothRequired) trace final ∧
      ¬ AtMostOneSending final.workflows) ∧
    ∃ trace final, Processes "token" (holding bothRequired) trace final ∧
      (∀ asked ∈ trace, isCycleQuestion asked.question) ∧
      HeldAs .indefinite final.workflows "w-1" := by
  let _ := sampleTexts
  let _ := sampleWording
  let _ := sampleFolding
  constructor
  · have hcycles : ∀ task change, anyQuestion (.cycle task change) := fun _ _ => trivial
    have hlist : MayCome "token" anyQuestion eligiblePlaceholderWorkflowIds
        (holding firstInFlight) ["w-2"] (holding firstInFlight) :=
      mayCome_eligible hcycles valid_firstInFlight (by decide +kernel)
    have hclaim : MayCome "token" anyQuestion (claimOnePlaceholder "w-2")
        (holding firstInFlight) (some secondClaim) (holding bothInFlight) :=
      mayCome_claim hcycles 1 valid_firstInFlight claims_second
        (valid_twoApproved (fun _ => rfl) fun _ => rfl)
    obtain ⟨hedits, hpending⟩ := mayCome_noDeliveries
    have hpass : MayCome "token" anyQuestion (runPass "token") (holding bothRequired) ()
        (holding firstInFlight) :=
      mayCome_unrecordedPass.bind (hedits.bind hpending)
    have hrun : MayBreak "token" anyQuestion (run "token" 2) (holding bothRequired)
        (holding bothInFlight) :=
      (mayCome_sweepBoth hcycles).breaks (hpass.breaks
        (.bind (.bind (hlist.breaks (.bind hclaim.breaksAfter)))))
    obtain ⟨trace, -, hexecutes⟩ := hrun
    refine ⟨_, _, .call .start ⟨2, rfl⟩ hexecutes, fun hone => ?_⟩
    have hsame := hone "w-1" "w-2" ⟨firstSending, rfl, rfl⟩ ⟨secondSending, rfl, rfl⟩
    exact absurd hsame (by decide)
  · have hcycles : ∀ task change, isCycleQuestion (.cycle task change) :=
      fun _ _ => trivial
    obtain ⟨hlist, hclaim⟩ := mayCome_firstClaim hcycles
    have hfirst : MayBreak "token" isCycleQuestion (run "token" 1) (holding bothRequired)
        (holding firstInFlight) :=
      (mayCome_sweepBoth hcycles).breaks
        (.bind (.bind (hlist.breaks (.bind hclaim.breaksAfter))))
    have hsecond : MayCome "token" isCycleQuestion (run "token" 0) (holding firstInFlight) ()
        (holding firstLost) := by
      have hswept : firstInFlight.mapValues (fun _ => failSending) = firstLost := rfl
      have hvalid : validateDocument firstLost = .ok () :=
        valid_twoApproved (fun _ => rfl) fun _ => rfl
      exact (mayCome_sweep (hcycles _) valid_firstInFlight (by decide +kernel) hswept
        hvalid).bind (mayCome_pure ())
    obtain ⟨before, hbefore, hfirst⟩ := hfirst
    obtain ⟨after, hafter, hsecond⟩ := hsecond
    refine ⟨_, _, .call (.call .start ⟨1, rfl⟩ hfirst) ⟨0, rfl⟩ hsecond, ?_,
      _, rfl, rfl⟩
    intro asked hmem
    rw [List.nil_append] at hmem
    exact (List.mem_append.mp hmem).elim (hbefore asked) (hafter asked)

/-- A process that meets a record in flight sweeps it, and claims nothing. -/
theorem at_most_one_in_flight_swept : letI := sampleTexts
    letI := sampleWording
    letI := sampleFolding
    ∃ trace, Processes "token" (holding firstInFlight) trace (holding firstLost) ∧
      OneInFlight (holding firstInFlight) trace (holding firstLost) := by
  let _ := sampleTexts
  let _ := sampleWording
  let _ := sampleFolding
  have hvalid : validateDocument firstLost = .ok () :=
    valid_twoApproved (fun _ => rfl) fun _ => rfl
  have hswept : firstInFlight.mapValues (fun _ => failSending) = firstLost := rfl
  have hrun : MayCome "token" (fun question => ∃ change, question = .cycle .sweep change)
      (run "token" 0) (holding firstInFlight) () (holding firstLost) :=
    (mayCome_sweep (fun change => ⟨change, rfl⟩) valid_firstInFlight (by decide +kernel)
      hswept hvalid).bind (mayCome_pure ())
  obtain ⟨trace, hsweeps, hexecutes⟩ := hrun
  have hprocesses : Processes "token" (holding firstInFlight) trace (holding firstLost) :=
    .call .start ⟨0, rfl⟩ hexecutes
  refine ⟨trace, hprocesses, at_most_one_in_flight hprocesses ?_ ?_⟩
  · rintro first second ⟨_, hfirst, hfirstState⟩ ⟨_, hsecond, hsecondState⟩
    rw [sending_firstInFlight hfirst hfirstState, sending_firstInFlight hsecond hsecondState]
  · apply prompt_of_unclaimed
    intro heard hmem
    simp only [historyOf, List.mem_reverse, List.mem_map] at hmem
    obtain ⟨asked, hasked, rfl⟩ := hmem
    obtain ⟨change, hquestion⟩ := hsweeps asked hasked
    obtain ⟨before, question, answer, after⟩ := asked
    obtain rfl := hquestion
    exact ite_self _

end DodgingInfinity.TelegramOperator
