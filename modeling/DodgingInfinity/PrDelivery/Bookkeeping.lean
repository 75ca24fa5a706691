import DodgingInfinity.PrDelivery.Conduct

/-!
# The bookkeeping of a step

What persisting, starting, voiding, succeeding and stopping do to the working
copy and to what is stored.
-/

namespace DodgingInfinity.PrDelivery

open Procedure

variable [JsonDigest] {sound : Exchange → Prop} {authority : Authority}
  {phase : Phase}

/-- The triples of the machine under an authority. -/
abbrev Conducts (sound : Exchange → Prop) (authority : Authority)
    {α : Type} (pre : Record → Site → Prop) (act : Act α)
    (post : α → Record → Site → Prop) (fails : Fault → Record → Site → Prop) : Prop :=
  Triple (delivering sound) (conduct (Sound authority) Ruled) pre act post fails

variable {α : Type} {p : Record → Site → Prop}

theorem Reads.conducts {act : Act α}
    {fact : α → Record → Site → Prop}
    (h : Reads sound (Sound authority) Ruled act fact) (hp : Steady p)
    (hworking : ∀ record site, p record site → Working authority phase record site) :
    Conducts sound authority p act
      (fun value record site => p record site ∧ fact value record site) (Falls authority phase) :=
  (h p hp fun record site hpre => (hworking record site hpre).sound).mono
    (fun _ _ _ hpost => hpost) fun _ record site hpre =>
      (hworking record site hpre.1).falls

/-- A change of the working copy. -/
theorem conducts_change {pre : Record → Site → Prop} (p : Record → Site → Prop)
    {f : Record → Record} {fails : Fault → Record → Site → Prop}
    (h : ∀ record site, pre record site → p (f record) site) :
    Conducts sound authority pre (change f) (fun _ => p) fails :=
  triple_change f h

/-- A reading that cannot fail. -/
theorem conducts_clock (hp : Steady p)
    (hsound : ∀ record site, p record site → Sound authority site)
    (fails : Fault → Record → Site → Prop) :
    Conducts sound authority p clock (fun _ => p) fails := by
  refine triple_put _ fun record site now hpre hlater => ?_
  have hnow := hp.later hpre hlater
  refine ⟨hsound record now hnow, fun answer after hanswer => ?_⟩
  cases hanswer
  exact hp.hear _ (fun _ h => by cases h) hnow

theorem conducts_check (hsound : ∀ record site, p record site → Sound authority site)
    (result : Except AuthorizationError α) : Conducts sound authority p (check result)
      (fun value record site => p record site ∧ result = .ok value)
      (Breaks authority) := by
  cases result with
  | ok value => exact triple_pure value fun _ _ h => ⟨h, rfl⟩
  | error error =>
      exact triple_stop _ fun record site h => ⟨hsound record site h, rfl⟩

/-! ## Persisting -/

/-- A working copy with these steps. -/
structure Holding (authority : Authority) (phase : Phase) (steps : StepEntries)
    (record : Record) (site : Site) : Prop where
  working : Working authority phase record site
  steps : record.steps = steps

theorem steady_holding (authority : Authority) (phase : Phase)
    (steps : StepEntries) : Steady (Holding authority phase steps) :=
  ⟨fun h hdrift => ⟨(steady_working authority phase).drift h.working hdrift, h.steps⟩,
    fun answer hcall h => ⟨(steady_working authority phase).hear answer hcall h.working, h.steps⟩⟩

variable {record other : Record} {site : Site} {steps : StepEntries}

theorem Holding.congr (h : Holding authority phase steps record site)
    (hauthority : other.authority = record.authority)
    (hphase : other.phase = record.phase) (hsteps : other.steps = record.steps) :
    Holding authority phase steps other site :=
  ⟨h.working.congr hauthority hphase hsteps, hsteps.trans h.steps⟩

/-- A working copy that is stored. -/
structure Stored (authority : Authority) (phase : Phase) (steps : StepEntries)
    (record : Record) (site : Site) : Prop where
  holding : Holding authority phase steps record site
  synced : Synced steps phase site

theorem steady_stored (authority : Authority) (phase : Phase)
    (steps : StepEntries) : Steady (Stored authority phase steps) :=
  ⟨fun h hdrift => ⟨(steady_holding authority phase steps).drift h.holding
      hdrift, hdrift.synced h.synced⟩,
    fun answer hcall h => ⟨(steady_holding authority phase steps).hear answer
      hcall h.holding, h.synced.steps, h.synced.phase⟩⟩

theorem Stored.congr (h : Stored authority phase steps record site)
    (hauthority : other.authority = record.authority)
    (hphase : other.phase = record.phase) (hsteps : other.steps = record.steps) :
    Stored authority phase steps other site :=
  ⟨h.holding.congr hauthority hphase hsteps, h.synced⟩

/-- A saved working copy is what is stored. -/
theorem conducts_save (steps : StepEntries) (record : Record) : Conducts sound authority
      (fun working site => (working = record ∧ Holding authority phase steps working site) ∧
          validateAuthorization record = .ok ())
      (save record) (fun _ => Stored authority phase steps)
      (Breaks authority) := by
  have hput : Conducts sound authority
      (fun working site => (working = record ∧ Holding authority phase steps working site) ∧
          validateAuthorization record = .ok ())
      (question (.save record)) (fun answer working site =>
        Sound authority site ∧ ∀ value, answer = .ok value →
          Stored authority phase steps working site)
      (Breaks authority) := by
    refine triple_put _ fun working site now hpre hlater => ?_
    obtain ⟨⟨rfl, hholding⟩, hvalid⟩ := hpre
    obtain ⟨hnow, hsteps⟩ :=
      (steady_holding authority phase steps).later hholding hlater
    refine ⟨hnow.sound, fun answer after hanswer => ?_⟩
    cases hanswer with
    | saved _ _ =>
        have hlog : ∀ exchange ∈ now.log, exchange ∈ (now.keep working).log :=
          fun _ hin => List.mem_cons_of_mem _ hin
        have hearned : Earned working (now.keep working) :=
          hnow.earned.congr rfl rfl (fun _ => rfl) (fun _ => rfl) hlog
        have hkept : Sound authority (now.keep working) :=
          ⟨hnow.authority, hvalid, hearned, hnow.permitted, hnow.aligned⟩
        exact ⟨hkept, fun _ _ => ⟨⟨⟨hkept, hnow.authority, hnow.phase, hearned,
          hnow.permitted, hnow.aligned⟩, hsteps⟩, hsteps, .inl hnow.phase⟩⟩
    | unsaved _ failure =>
        exact ⟨hnow.sound.later rfl fun _ hin => List.mem_cons_of_mem _ hin,
          fun _ h => by cases h⟩
  refine Triple.bind hput fun answer => ?_
  cases answer with
  | ok value => exact triple_pure _ fun _ _ h => h.2 value rfl
  | error failure => exact triple_stop _ fun _ _ h => ⟨h.1, rfl⟩

theorem conducts_persist_steps (steps : StepEntries) :
    Conducts sound authority (Holding authority phase steps) persist
      (fun _ => Stored authority phase steps) (Breaks authority) := by
  refine Triple.bind (conducts_clock (steady_holding authority phase steps)
    (fun _ _ h => h.working.sound) _) fun now => Triple.bind (conducts_change
      (Holding authority phase steps) fun record site h =>
        h.congr rfl rfl rfl) fun _ => Triple.bind triple_read fun held => ?_
  exact Triple.bind (conducts_check (fun record site h => h.2.working.sound)
    (validateAuthorization held)) fun _ => conducts_save steps held

theorem conducts_persist : Conducts sound authority (Working authority phase) persist
      (fun _ => Working authority phase) (Breaks authority) :=
  triple_ghost Record.steps fun steps =>
    ((conducts_persist_steps steps).weaken fun _ _ h => ⟨h.1, h.2⟩).mono
      (fun _ _ _ h => h.holding.working) fun _ _ _ h => h

/-! ## Changing an entry -/

/-- No phase that is reached rests on the receipt of the step. -/
def Settable (phase : Phase) (step : Step) : Prop :=
  (step = .commit → phase ∉ committedPhases) ∧ (step = .push → phase ∉ pushedPhases)

variable {mode : Mode} {step : Step}

omit [JsonDigest] in
theorem settable_of_step
    (h : stepForPhase mode phase = some step) : Settable phase step := by
  cases mode <;> cases phase <;> simp_all [stepForPhase, Settable,
    committedPhases, pushedPhases] <;> subst h <;> simp

/-- A change of an entry that keeps what its receipt is bound to, and says of
an unproven receipt that it is one. -/
structure Mild (entry after : StepEntry) : Prop where
  binding : ∀ receipt, after.receipt = some receipt →
    ∃ held, entry.receipt = some held ∧ receipt.binding = held.binding
  aligned : ∀ receipt, after.receipt = some receipt →
    receipt.state ∈ [.executing, .failedRetryable] → after.state ∈ [.executing, .failedRetryable]

omit [JsonDigest] in
theorem Earned.withEntry (h : Earned record site) (hstep : Settable record.phase step)
    (entry : StepEntry) : Earned (record.withEntry step entry) site := by
  refine h.congr rfl rfl (fun hin => ?_) (fun hin => ?_) fun _ hin => hin
  · have hne : Step.commit ≠ step := fun heq => hstep.1 heq.symm hin
    exact congrArg StepEntry.receipt (record.steps.get_set_of_ne entry hne)
  · have hne : Step.push ≠ step := fun heq => hstep.2 heq.symm hin
    exact congrArg StepEntry.receipt (record.steps.get_set_of_ne entry hne)

/-- What an entry must be for the working copy to go on with it. -/
structure Fits (authority : Authority) (step : Step) (entry : StepEntry) :
    Prop where
  permitted : ∀ receipt, entry.receipt = some receipt →
    step ∈ authority.allowedActions ∧ OnApprovedHead authority receipt
  aligned : ∀ receipt, entry.receipt = some receipt →
    receipt.state ∈ [.executing, .failedRetryable] → entry.state ∈ [.executing, .failedRetryable]

variable {entry : StepEntry}

omit [JsonDigest] in
theorem Permitted.withEntry (h : Permitted record) (hentry : Fits record.authority step entry) :
    Permitted (record.withEntry step entry) := by
  intro other receipt hreceipt
  by_cases hother : other = step
  · subst hother
    simp only [Record.withEntry, StepEntries.get_set_self] at hreceipt
    exact hentry.permitted receipt hreceipt
  · simp only [Record.withEntry, StepEntries.get_set_of_ne _ _ hother] at hreceipt
    exact h other receipt hreceipt

omit [JsonDigest] in
theorem Aligned.withEntry (h : Aligned record) (hentry : Fits record.authority step entry) :
    Aligned (record.withEntry step entry) := by
  intro hgoes other receipt hreceipt
  by_cases hother : other = step
  · subst hother
    simp only [Record.withEntry, StepEntries.get_set_self] at hreceipt ⊢
    exact hentry.aligned receipt hreceipt
  · simp only [Record.withEntry, StepEntries.get_set_of_ne _ _ hother] at hreceipt ⊢
    exact h hgoes other receipt hreceipt

theorem Working.withEntry (h : Working authority phase record site)
    (hstep : Settable phase step) (hentry : Fits authority step entry) :
    Working authority phase (record.withEntry step entry) site := by
  rw [← h.authority] at hentry
  exact ⟨h.sound, h.authority, h.phase, h.earned.withEntry (h.phase ▸ hstep) _,
    h.permitted.withEntry hentry, h.aligned.withEntry hentry⟩

theorem Working.fits (h : Working authority phase record site)
    (hmild : Mild (record.steps.get step) entry) :
    Fits authority step entry := by
  refine ⟨fun receipt hreceipt => ?_, hmild.aligned⟩
  obtain ⟨held, hheld, hbinding⟩ := hmild.binding receipt hreceipt
  obtain ⟨hallowed, hhead⟩ := h.permitted step held hheld
  rw [h.authority] at hallowed hhead
  exact ⟨hallowed, fun hmode binding hpush =>
    hhead hmode binding (hbinding ▸ hpush)⟩

omit [JsonDigest] in
theorem mild_voidedEntry (entry : StepEntry) : Mild entry (voidedEntry entry) := by
  have hnone : (voidedEntry entry).receipt = none := by
    unfold voidedEntry
    split
    · rfl
    · assumption
  exact ⟨by simp [hnone], by simp [hnone]⟩

omit [JsonDigest] in
theorem mild_retriedEntry (haligned : ∀ receipt, entry.receipt = some receipt →
      receipt.state ∈ [.executing, .failedRetryable] →
        entry.state ∈ [.executing, .failedRetryable]) :
    Mild entry (retriedEntry entry) := by
  obtain ⟨state, receipt, voided⟩ := entry
  cases receipt with
  | none => exact ⟨by simp [retriedEntry]; split <;> simp,
      by simp [retriedEntry]; split <;> simp⟩
  | some receipt =>
      simp only [retriedEntry]
      split
      · exact ⟨by simp, by simp⟩
      · split
        · rename_i hsettled
          refine ⟨by simp, fun held hheld hopen => ?_⟩
          cases hheld
          rcases hsettled.1 with h | h <;> simp [h] at hopen
        · exact ⟨by simp, haligned⟩

/-- A change of the entry of a step that fits it. -/
theorem conducts_modifyEntry {f : StepEntry → StepEntry} (hstep : Settable phase step)
    (hworking : ∀ record site, p record site → Working authority phase record site)
    (hfits : ∀ record site, p record site → Fits authority step (f (record.steps.get step)))
    (fails : Fault → Record → Site → Prop) : Conducts sound authority p (modifyEntry step f)
      (fun _ => Working authority phase) fails :=
  triple_change _ fun record site h =>
    (hworking record site h).withEntry hstep (hfits record site h)

theorem conducts_void (hstep : Settable phase step) (fails : Fault → Record → Site → Prop) :
    Conducts sound authority (Working authority phase) (void step)
      (fun _ => Working authority phase) fails :=
  conducts_modifyEntry hstep (fun _ _ h => h) (fun _ _ h => h.fits (mild_voidedEntry _)) fails

/-! ## Changing the phase -/

theorem Steady.under (hp : Steady p) (c : Record → Prop) (f : Record → Record) :
    Steady fun record site => c record → p (f record) site :=
  ⟨fun h hdrift hc => hp.drift (h hc) hdrift, fun answer hcall h hc => hp.hear answer hcall (h hc)⟩

/-- The working copy is fit for another phase, where the table allows it. -/
structure Leaving (authority : Authority) (phase new : Phase) (record : Record)
    (site : Site) : Prop where
  sound : Sound authority site
  owner : record.authority = authority
  phase : record.phase = phase
  fit : new ∈ allowedTransitionsByMode record.mode record.phase →
    Working authority new { record with phase := new } site

theorem steady_leaving (authority : Authority) (phase new : Phase) :
    Steady (Leaving authority phase new) := by
  have hfit := (steady_working authority new).under (fun record =>
    new ∈ allowedTransitionsByMode record.mode record.phase)
      fun record => { record with phase := new }
  exact ⟨fun h hdrift => ⟨h.sound.drift hdrift, h.owner, h.phase, hfit.drift h.fit hdrift⟩,
    fun answer hcall h => ⟨h.sound.later rfl fun _ hin =>
      List.mem_cons_of_mem _ hin, h.owner, h.phase, hfit.hear answer hcall h.fit⟩⟩

theorem conducts_transition (new : Phase) :
    Conducts sound authority (Leaving authority phase new) (transition new)
      (fun _ record site => Working authority new record site ∧
        new ∈ allowedTransitionsByMode authority.kind.mode phase)
      (Breaks authority) := by
  refine Triple.bind (conducts_clock (steady_leaving authority phase new)
    (fun _ _ h => h.sound) _) fun now => Triple.bind triple_read fun held => ?_
  refine Triple.bind (conducts_check (fun record site h => h.2.sound) _)
    fun after => triple_change _ fun record site h => ?_
  obtain ⟨⟨rfl, hleaving⟩, hafter⟩ := h
  obtain ⟨hallowed, rfl⟩ := applyTransition_eq_ok.mp hafter
  refine ⟨(hleaving.fit hallowed).congr rfl rfl rfl, ?_⟩
  rwa [Record.mode, hleaving.owner, hleaving.phase] at hallowed

/-! ## Stopping and retrying -/

/-- A working copy is fit to stop. -/
theorem Working.stopping {stopped : Phase}
    (h : Working authority phase record site) (hstop : stopped = .blocked ∨ stopped = .revoked) :
    Leaving authority phase stopped record site := by
  refine ⟨h.sound, h.authority, h.phase, fun _ => ⟨h.sound, h.authority, rfl,
    Earned.stopped hstop, h.permitted, Aligned.terminal ?_⟩⟩
  rcases hstop with rfl | rfl <;> simp [terminalPhases]

/-- An entry may be blocked when the working copy stops. -/
theorem Leaving.withBlocked
    (h : Leaving authority phase .blocked record site) : Leaving authority phase .blocked
      (record.withEntry step (blockedEntry (record.steps.get step))) site := by
  refine ⟨h.sound, h.owner, h.phase, fun hallowed => ?_⟩
  have hbefore := h.fit hallowed
  refine ⟨hbefore.sound, hbefore.authority, rfl, Earned.stopped (.inl rfl),
    fun other receipt hreceipt => ?_,
    Aligned.terminal (by simp [terminalPhases])⟩
  refine hbefore.permitted other receipt ?_
  by_cases hother : other = step
  · subst hother
    simp only [Record.withEntry, StepEntries.get_set_self, blockedEntry] at hreceipt
    split at hreceipt <;> exact hreceipt
  · simp only [Record.withEntry, StepEntries.get_set_of_ne _ _ hother] at hreceipt
    exact hreceipt

/-- A working copy in some phase. -/
def WorkingSome (authority : Authority) (record : Record) (site : Site) : Prop :=
  ∃ phase, Working authority phase record site

variable {new : Phase}

/-- A phase change at a time that was read before. -/
theorem conducts_applied {rest : Act α}
    {post : α → Record → Site → Prop} (now : Time) (held : Record)
    (hrest : Conducts sound authority (Working authority new) rest post
      (Breaks authority)) : Conducts sound authority
      (fun record site => record = held ∧ Leaving authority phase new record site)
      (do
        let after ← check (applyTransition held new now)
        change fun _ => after
        rest)
      post (Breaks authority) := by
  refine Triple.bind (conducts_check (fun record site h => h.2.sound) _)
    fun after => Triple.bind (conducts_change (Working authority new)
      fun record site h => ?_) fun _ => hrest
  obtain ⟨⟨rfl, hleaving⟩, hafter⟩ := h
  obtain ⟨hallowed, rfl⟩ := applyTransition_eq_ok.mp hafter
  exact (hleaving.fit hallowed).congr rfl rfl rfl

theorem conducts_blockEntry (step : Option Step) :
    Conducts sound authority (Leaving authority phase .blocked)
      (blockEntry step) (fun _ => Leaving authority phase .blocked)
      (Breaks authority) := by
  cases step with
  | none => exact triple_pure _ fun _ _ h => h
  | some step => exact triple_change _ fun _ _ h => h.withBlocked

theorem conducts_block (problem : Problem) :
    Conducts sound authority (Working authority phase) (block problem)
      (fun _ => WorkingSome authority) (Breaks authority) := by
  refine Triple.bind (conducts_clock (steady_working authority phase)
    (fun _ _ h => h.sound) _) fun now => Triple.bind (conducts_change
      (Working authority phase) fun record site h => h.congr rfl rfl rfl)
        fun _ => Triple.bind triple_read fun held => ?_
  refine triple_of (p := held.phase = phase) (fun _ _ h => h.1 ▸ h.2.phase) fun hphase => ?_
  by_cases hterminal : phase ∈ terminalPhases
  · have hnone : stepForPhase held.mode held.phase = none := by
      rw [hphase]
      cases held.mode <;> cases phase <;> simp_all [stepForPhase, terminalPhases]
    rw [hnone]
    refine Triple.bind (triple_pure () fun _ _ h => h.2) fun _ => triple_ite _
      (fun h => absurd (hphase ▸ hterminal) h) fun _ =>
        conducts_persist.mono (fun _ _ _ h => ⟨phase, h⟩) fun _ _ _ h => h
  · refine Triple.bind ((conducts_blockEntry _).weaken fun _ _ h =>
      h.2.stopping (.inl rfl)) fun _ => triple_ite _ (fun _ => ?_)
        fun h => absurd (hphase ▸ hterminal) h
    exact Triple.bind triple_read fun record =>
      conducts_applied now record (conducts_persist.mono
        (fun _ _ _ h => ⟨.blocked, h⟩) fun _ _ _ h => h)

theorem conducts_retry {step : Option Step} (hstep : ∀ held, step = some held →
      stepForPhase mode phase = some held) :
    Conducts sound authority (Working authority phase) (retry step)
      (fun _ => Working authority phase) (Breaks authority) := by
  have hpersist : Conducts sound authority (Working authority phase)
      (do
        change ({ · with blocker := none })
        persist)
      (fun _ => Working authority phase) (Breaks authority) :=
    Triple.bind (conducts_change (Working authority phase)
      fun record site h => h.congr rfl rfl rfl) fun _ => conducts_persist
  cases step with
  | none => exact hpersist
  | some held =>
      have hgoes := hstep held rfl
      refine Triple.bind (conducts_modifyEntry (settable_of_step hgoes)
        (fun _ _ h => h) (fun record site h => h.fits
          (mild_retriedEntry fun receipt hreceipt => ?_)) _) fun _ => hpersist
      exact h.aligned (h.phase ▸ goesOn_of_step hgoes) held receipt hreceipt

/-! ## Reading again -/

theorem JustRead.later {now : Site} {fresh : Record}
    (h : JustRead fresh site) (hlater : (delivering sound).Later site now) :
    JustRead fresh now := by
  induction hlater with
  | refl => exact h
  | tail _ hdrift ih => exact ih.drift hdrift

/-- The clock is read next after the record. -/
theorem conducts_clock_again (hp : Steady p)
    (hsound : ∀ record site, p record site → Sound authority site)
    (fresh : Record) (fails : Fault → Record → Site → Prop) : Conducts sound authority
      (fun record site => p record site ∧ JustRead fresh site) clock
      (fun now record site => p record site ∧ ReadAgain fresh now site)
      fails := by
  refine triple_put _ fun record site now hpre hlater => ?_
  have hnow := hp.later hpre.1 hlater
  refine ⟨hsound record now hnow, fun answer after hanswer => ?_⟩
  obtain ⟨⟨older, hlog⟩, hunmoved⟩ := hpre.2.later hlater
  cases hanswer with
  | clock time _ =>
      refine ⟨hp.hear _ (fun _ h => by cases h) hnow,
        ⟨[], older, ?_, by simp⟩,
        ⟨hunmoved.authority, ⟨hunmoved.synced.steps, hunmoved.synced.phase⟩⟩⟩
      simp [hlog]

theorem conducts_load (hp : Steady p) (hsound : ∀ record site, p record site → Sound authority site)
    (deliveryId : String) : Conducts sound authority p (load deliveryId)
      (fun fresh record site => p record site ∧ JustRead fresh site ∧
        site.stored = fresh) (Breaks authority) := by
  have hput : Conducts sound authority p (question (.load deliveryId))
      (fun answer record site => p record site ∧ ∀ fresh, answer = .ok fresh →
        JustRead fresh.val site ∧ site.stored = fresh.val)
      (Breaks authority) := by
    refine triple_put _ fun record site now hpre hlater => ?_
    have hnow := hp.later hpre hlater
    refine ⟨hsound record now hnow, fun answer after hanswer => ?_⟩
    cases hanswer with
    | loaded _ hid =>
        subst hid
        refine ⟨hp.hear _ (fun _ h => by cases h) hnow, fun fresh hfresh => ?_⟩
        cases hfresh
        exact ⟨⟨⟨now.log, rfl⟩, rfl, rfl, .inl rfl⟩, rfl⟩
    | unread _ failure =>
        exact ⟨hp.hear _ (fun _ h => by cases h) hnow, fun _ h => by cases h⟩
  refine Triple.bind hput fun answer => ?_
  cases answer with
  | ok fresh => exact triple_pure _ fun _ _ h => ⟨h.1, h.2 fresh rfl⟩
  | error failure =>
      exact triple_stop _ fun record site h => ⟨hsound record site h.1, rfl⟩

/-- What a refresh leaves: going on, the record was read again. -/
theorem conducts_refresh (steps : StepEntries) (hgoes : phase ∉ terminalPhases) :
    Conducts sound authority (Stored authority phase steps) refresh
      (fun stopped record site => Stored authority phase steps record site ∧
        (stopped = false → Rechecked site)) (Breaks authority) := by
  have hsteady := steady_stored authority phase steps
  refine Triple.bind triple_read fun held => ?_
  refine Triple.bind ((conducts_load hsteady
    (fun _ _ h => h.holding.working.sound) _).weaken fun _ _ h => h.2)
    fun fresh => ?_
  -- the phase read is the saved one, or a revocation has come since
  refine triple_of (p := fresh.phase = phase ∨ isRevoked fresh = true)
    (fun record site h => h.2.2 ▸ h.1.synced.phase) fun hphase => ?_
  refine Triple.bind (conducts_change (fun record site =>
    Stored authority phase steps record site ∧ JustRead fresh site ∧
      record.revocation = fresh.revocation) fun record site h =>
    ⟨h.1.congr rfl rfl rfl, h.2.1, rfl⟩) fun _ =>
      Triple.bind triple_read fun record => ?_
  refine triple_ite _ (fun hrevoked => triple_pure true fun _ _ h =>
    ⟨h.2.1, fun hfalse => by cases hfalse⟩) fun hfree => ?_
  refine Triple.bind ((conducts_clock_again (p := fun working site =>
    (working = record ∧ working.revocation = fresh.revocation) ∧
      Stored authority phase steps working site)
    ((steady_record _).and hsteady) (fun _ _ h => h.2.holding.working.sound)
      fresh _).weaken fun working site h => ⟨⟨⟨h.1, h.2.2.2⟩, h.2.1⟩, h.2.2.1⟩)
    fun now => triple_pure _ fun working site h => ⟨h.1.2, fun hexpired => ?_⟩
  obtain ⟨⟨⟨rfl, hrevocation⟩, hstored⟩, hagain⟩ := h
  have hworking := hstored.holding.working
  have hfresh : isRevoked fresh = false := by
    rw [isRevoked, ← hrevocation]
    exact Bool.eq_false_iff.mpr hfree
  refine ⟨fresh, now, hagain, ?_, hfresh, ?_⟩
  · rcases hphase with hphase | hphase
    · exact hphase ▸ hgoes
    · rw [hfresh] at hphase
      cases hphase
  · rw [isExpired, ← hagain.2.authority, hworking.sound.authority, ← hworking.authority]
    exact hexpired

/-! ## Starting -/

/-- The steps hold an executing receipt bound to this. -/
structure Started (authority : Authority) (steps : StepEntries) (step : Step)
    (binding : Binding) : Prop where
  state : (steps.get step).state = .executing
  allowed : step ∈ authority.allowedActions
  receipt : ∃ receipt, (steps.get step).receipt = some receipt ∧
    receipt.state = .executing ∧ receipt.binding = binding ∧ receipt.step = step ∧
    receipt.parentAuthorityDigest = authority.authorityDigest

variable {binding : Binding}

/-- A stored executing receipt that was read again stands for its effect. -/
theorem Started.writeAhead
    (h : Started authority steps step binding) (hstored : Stored authority phase steps record site)
    (hrechecked : Rechecked site) : WriteAhead site step := by
  have hauthority := hstored.holding.working.sound.authority
  obtain ⟨receipt, hreceipt, hexecuting, -, hstep, hparent⟩ := h.receipt
  refine ⟨⟨receipt, ?_, hstep, hauthority ▸ hparent⟩, hauthority ▸ h.allowed, hrechecked⟩
  simp [executingReceipt, hstored.synced.steps, h.state, hreceipt, hexecuting]

theorem conducts_startedEntry
    {receipt : Receipt} (hstep : Settable phase step)
    (hpush : authority.kind.mode = .prUpdate → ∀ push, binding = .push push →
      push.expectedRemoteOldOid = authority.originalBaseline.commitSha)
    (fails : Fault → Record → Site → Prop) : Conducts sound authority
      (fun record site => Working authority phase record site ∧ Derived record step binding receipt)
      (modifyEntry step (startedEntry receipt))
      (fun _ record site => Working authority phase record site ∧
        Started authority record.steps step binding) fails := by
  refine triple_change _ fun record site h => ?_
  obtain ⟨hworking, hderived⟩ := h
  obtain ⟨now, token, rfl⟩ := hderived.minted
  obtain rfl := hworking.authority
  refine ⟨hworking.withEntry hstep ⟨fun held hheld => ?_, fun _ _ _ => ?_⟩,
    ⟨?_, hderived.allowed, ?_⟩⟩
  · cases hheld
    exact ⟨hderived.allowed, hpush⟩
  · simp [startedEntry]
  · simp [startedEntry]
  · exact ⟨{ receiptOf record step binding now token with state := .executing },
      by simp [startedEntry], rfl, rfl, rfl, rfl⟩

/-- A start that finds the record revoked or expired takes its receipt back. -/
theorem conducts_unstart (hstep : Settable phase step) :
    Conducts sound authority (Stored authority phase steps)
      (do
        void step
        persist
        let record ← read
        stop (.receipt (if isRevoked record then .revoked else .expired)))
      (fun (_ : Unit) _ _ => False) (Falls authority phase) := by
  have hpersist : Conducts sound authority (Working authority phase) persist
      (fun _ => Working authority phase) (Falls authority phase) :=
    conducts_persist.mono (fun _ _ _ h => h) fun _ _ _ => Breaks.falls
  refine Triple.bind ((conducts_void hstep _).weaken fun _ _ h =>
    h.holding.working) fun _ => Triple.bind hpersist fun _ =>
      Triple.bind triple_read fun record => triple_stop _ fun _ _ h => h.2.falls

/-- Going on after a start, the executing receipt was stored and the record
read again. -/
theorem conducts_start (hpush : authority.kind.mode = .prUpdate → ∀ push, binding = .push push →
      push.expectedRemoteOldOid = authority.originalBaseline.commitSha) :
    Conducts sound authority (Working authority phase) (start step binding)
      (fun _ record site => Working authority phase record site ∧
        Started authority record.steps step binding ∧ WriteAhead site step)
      (Falls authority phase) := by
  refine Triple.bind ((triple_derive (steady_working authority phase)
    (fun _ _ h => h.sound) step binding).mono (fun _ _ _ h => h)
      fun _ _ _ h => h.falls) fun receipt => ?_
  refine triple_of (p := stepForPhase authority.kind.mode phase = some step)
    (fun record site h => by
      rw [← h.2.permits, Record.mode, h.1.authority, h.1.phase]) fun hpermits => ?_
  have hstep := settable_of_step hpermits
  refine Triple.bind (conducts_startedEntry hstep hpush _) fun _ =>
    triple_ghost Record.steps fun steps => ?_
  refine triple_of (p := Started authority steps step binding)
    (fun record site h => h.2 ▸ h.1.2) fun hstarted => ?_
  refine Triple.bind (((conducts_persist_steps steps).weaken fun _ _ h =>
    ⟨h.1.1, h.2⟩).mono (fun _ _ _ h => h) fun _ _ _ => Breaks.falls) fun _ =>
    Triple.bind ((conducts_refresh steps (goesOn_of_step hpermits)).mono
      (fun _ _ _ h => h) fun _ _ _ => Breaks.falls) fun stopped => ?_
  refine triple_ite _ (fun _ => ?_) fun hgoes => triple_pure _ fun record site h => ?_
  · exact ((conducts_unstart hstep).weaken fun _ _ h => h.1).mono
      (fun _ _ _ h => h.elim) fun _ _ _ h => h
  · obtain ⟨hstored, hrechecked⟩ := h
    refine ⟨hstored.holding.working, hstored.holding.steps ▸ hstarted, ?_⟩
    exact hstarted.writeAhead hstored (hrechecked (Bool.eq_false_iff.mpr hgoes))

/-! ## Succeeding -/

omit [JsonDigest] in
theorem mild_succeededEntry (observed : Observed) (entry : StepEntry) :
    Mild entry (succeededEntry observed entry) := by
  refine ⟨fun receipt hreceipt => ?_, fun receipt hreceipt hopen => ?_⟩
  · obtain ⟨held, hheld, rfl⟩ := Option.map_eq_some_iff.mp hreceipt
    exact ⟨held, hheld, rfl⟩
  · obtain ⟨held, hheld, rfl⟩ := Option.map_eq_some_iff.mp hreceipt
    simp at hopen

omit [JsonDigest] in
theorem goesOn_of_allowed
    (h : new ∈ allowedTransitionsByMode mode phase) : phase ∉ terminalPhases := by
  cases mode <;> cases phase <;> simp_all [allowedTransitionsByMode,
    allowedTransitions, prUpdateAllowedTransitions, terminalPhases]

variable {observed : Observed}

theorem Working.succeeding (h : Working authority phase record site)
    (hearned : new ∈ allowedTransitionsByMode authority.kind.mode phase →
      Earned (record.succeeded step observed new) site) :
    Leaving authority phase new (record.withEntry step
      (succeededEntry observed (record.steps.get step))) site := by
  obtain ⟨hsound, rfl, rfl, hbefore, hpermitted, haligned⟩ := h
  have hfits : Fits record.authority step
      (succeededEntry observed (record.steps.get step)) :=
    Working.fits ⟨hsound, rfl, rfl, hbefore, hpermitted, haligned⟩ (mild_succeededEntry observed _)
  refine ⟨hsound, rfl, rfl, fun hallowed => ?_⟩
  exact ⟨hsound, rfl, rfl, hearned hallowed, (hpermitted.withEntry hfits).congr rfl rfl,
    fun _ => haligned.withEntry hfits (goesOn_of_allowed hallowed)⟩

/-- A step whose effect is proven succeeds into a phase that it has earned. -/
theorem conducts_succeed : Conducts sound authority
      (fun record site => Working authority phase record site ∧
        (new ∈ allowedTransitionsByMode authority.kind.mode phase →
          Earned (record.succeeded step observed new) site))
      (succeed step observed new)
      (fun _ record site => Working authority new record site ∧
        new ∈ allowedTransitionsByMode authority.kind.mode phase)
      (Breaks authority) := by
  refine Triple.bind triple_read fun held => ?_
  split
  · exact triple_stop _ fun _ _ h => ⟨h.2.1.sound, rfl⟩
  · exact Triple.bind (conducts_change (Leaving authority phase new) fun record site h =>
        h.2.1.succeeding h.2.2) fun _ =>
      Triple.bind (conducts_transition new) fun _ => triple_of
        (fun _ _ h => h.2) fun hallowed => (conducts_persist.weaken
          fun _ _ h => h.1).mono (fun _ _ _ h => ⟨h, hallowed⟩) fun _ _ _ h => h

/-! ## Settling -/

/-- Whatever ended a step early is recorded, unless nothing records it. -/
theorem conducts_settle {step : Option Step} (hstep : ∀ held, step = some held →
      stepForPhase mode phase = some held) (fault : Fault) :
    Conducts sound authority (Falls authority phase fault) (settle step fault)
      (fun _ => WorkingSome authority) (Breaks authority) := by
  have hblock : ∀ problem, Conducts sound authority (Working authority phase)
      (do
        block problem
        pure Outcome.blocked)
      (fun _ => WorkingSome authority) (Breaks authority) := fun problem =>
    Triple.bind (conducts_block problem) fun _ => triple_pure _ fun _ _ h => h
  have hretry : Conducts sound authority (Working authority phase)
      (do
        retry step
        pure Outcome.retry)
      (fun _ => WorkingSome authority) (Breaks authority) :=
    Triple.bind (conducts_retry hstep) fun _ =>
      triple_pure _ fun _ _ h => ⟨phase, h⟩
  have hstop : ∀ fault : Fault, fault.isCaught = false →
      Conducts sound authority (Falls authority phase fault) (stop fault)
        (fun (_ : Outcome) => WorkingSome authority) (Breaks authority) :=
    fun fault hfault => triple_stop _ fun _ _ h => ⟨h.1, hfault⟩
  cases fault with
  | block problem => exact (hblock problem).weaken fun _ _ h => h.2 rfl
  | retry => exact hretry.weaken fun _ _ h => h.2 rfl
  | receipt problem =>
      refine triple_ite _ (fun _ => ?_) fun _ =>
        (hblock problem).weaken fun _ _ h => h.2 rfl
      exact Triple.bind ((conducts_transition .revoked).weaken fun _ _ h =>
        (h.2 rfl).stopping (.inr rfl)) fun _ => Triple.bind
          (conducts_persist.weaken fun _ _ h => h.1) fun _ =>
            triple_pure _ fun _ _ h => ⟨.revoked, h⟩
  | candidate problem => exact (hblock problem).weaken fun _ _ h => h.2 rfl
  | transport => exact hretry.weaken fun _ _ h => h.2 rfl
  | authorization error => exact hstop _ rfl
  | store failure => exact hstop _ rfl
  | expectedStep => exact hstop _ rfl
  | typeError => exact hstop _ rfl

end DodgingInfinity.PrDelivery
