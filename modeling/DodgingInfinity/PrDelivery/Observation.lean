import DodgingInfinity.PrDelivery.Site

/-!
# Reading the live facts

The pieces of the machine that only read: they leave the working copy and the
store alone, keep whatever is steady, and what they go on with was answered.
-/

namespace DodgingInfinity.PrDelivery

open Procedure

section

variable [JsonDigest] {sound : Exchange → Prop} {inv : Site → Prop}
  {rule : Site → Verb → Step → Prop}

/-- The faults of an act that only reads. -/
def Fault.ofReading : Fault → Bool
  | .block _ | .retry | .candidate _ | .transport | .typeError => true
  | .receipt _ | .authorization _ | .store _ | .expectedStep => false

/-- The act reads: it keeps whatever is steady where the invariant holds, and
what it answers has been heard. -/
def Reads (sound : Exchange → Prop) (inv : Site → Prop)
    (rule : Site → Verb → Step → Prop) {α : Type} (act : Act α)
    (fact : α → Record → Site → Prop) : Prop :=
  ∀ p, Steady p → (∀ record site, p record site → inv site) →
    Triple (delivering sound) (conduct inv rule) p act
      (fun value record site => p record site ∧ fact value record site)
      (fun fault record site => p record site ∧ fault.ofReading = true)

/-- A reading of which nothing needs to be known. -/
abbrev Quiet (sound : Exchange → Prop) (inv : Site → Prop)
    (rule : Site → Verb → Step → Prop) {α : Type} (act : Act α) : Prop :=
  Reads sound inv rule act fun _ _ _ => True

variable {α : Type}

variable {act : Act α} {fact : α → Record → Site → Prop}

theorem Reads.mono
    {more : α → Record → Site → Prop} (h : Reads sound inv rule act fact)
    (hle : ∀ value record site, fact value record site →
      more value record site) : Reads sound inv rule act more :=
  fun p hp hinv => (h p hp hinv).mono
    (fun value record site hpost => ⟨hpost.1, hle value record site hpost.2⟩)
    fun _ _ _ hp => hp

theorem Reads.quiet (h : Reads sound inv rule act fact) :
    Quiet sound inv rule act :=
  h.mono fun _ _ _ _ => trivial

variable {first : Act α}

/-- What the first reading told is still true after the second. -/
theorem Reads.bind {β : Type} {next : α → Act β} {more : β → Record → Site → Prop}
    (hfirst : Reads sound inv rule first fact) (hsteady : ∀ value, Steady (fact value))
    (hnext : ∀ value, Reads sound inv rule (next value)
      fun result record site => fact value record site → more result record site) :
    Reads sound inv rule (first >>= next) more := by
  intro p hp hinv
  refine Triple.bind (hfirst p hp hinv) fun value => ?_
  refine (hnext value _ (hp.and (hsteady value)) fun record site h => hinv record site h.1).mono ?_
      fun _ _ _ h => ⟨h.1.1, h.2⟩
  rintro result record site ⟨⟨hkept, hfact⟩, hmore⟩
  exact ⟨hkept, hmore hfact⟩

theorem Quiet.bind {β : Type} {next : α → Act β}
    {more : β → Record → Site → Prop} (hfirst : Quiet sound inv rule first)
    (hnext : ∀ value, Reads sound inv rule (next value) more) :
    Reads sound inv rule (first >>= next) more :=
  Reads.bind hfirst (fun _ => steady_const True) fun value =>
    (hnext value).mono fun _ _ _ h _ => h

theorem reads_pure (value : α) : Reads sound inv rule (pure value : Act α)
      fun result _ _ => result = value :=
  fun _ _ _ => triple_pure value fun _ _ h => ⟨h, rfl⟩

theorem quiet_pure (value : α) :
    Quiet sound inv rule (pure value : Act α) := (reads_pure value).quiet

theorem reads_stop {fault : Fault} (hfault : fault.ofReading = true)
    (fact : α → Record → Site → Prop) : Reads sound inv rule (stop fault : Act α) fact :=
  fun _ _ _ => triple_stop fault fun _ _ h => ⟨h, hfault⟩

theorem reads_read : Reads sound inv rule (read : Act Record)
    fun value record _ => value = record :=
  fun _ _ _ _ _ hpre => ⟨hpre, rfl⟩

theorem Reads.ite {c : Prop} {_ : Decidable c} {yes no : Act α}
    (hyes : c → Reads sound inv rule yes fact)
    (hno : ¬ c → Reads sound inv rule no fact) :
    Reads sound inv rule (if c then yes else no) fact :=
  fun p hp hinv => triple_ite c (fun h => hyes h p hp hinv) fun h => hno h p hp hinv

theorem Reads.onFault {handler : Fault → Act α} (hfirst : Reads sound inv rule first fact)
    (hhandler : ∀ fault, fault.ofReading = true → Reads sound inv rule (handler fault) fact) :
    Reads sound inv rule (first.onFault handler) fact :=
  fun p hp hinv => Triple.onFault (hfirst p hp hinv) fun fault =>
    triple_of (fun _ _ h => h.2) fun hfault =>
      (hhandler fault hfault p hp hinv).weaken fun _ _ h => h.1

/-- The working copy read stays what it is while only readings follow. -/
theorem Reads.of_read {next : Record → Act α} (hnext : ∀ record, Reads sound inv rule (next record)
      fun value working site => working = record → fact value working site) :
    Reads sound inv rule (read >>= next) fact :=
  Reads.bind reads_read (fun _ => steady_record _) fun record =>
    (hnext record).mono fun _ _ _ h heq => h heq.symm

theorem quiet_tokenHex : Quiet sound inv rule tokenHex := by
  intro p hp hinv
  refine triple_put _ fun record site now hpre hlater => ?_
  have hnow := hp.later hpre hlater
  refine ⟨hinv record now hnow, fun answer after hanswer => ?_⟩
  cases hanswer
  exact ⟨hp.hear _ (fun _ h => by cases h) hnow, trivial⟩

theorem quiet_clock : Quiet sound inv rule clock := by
  intro p hp hinv
  refine triple_put _ fun record site now hpre hlater => ?_
  have hnow := hp.later hpre hlater
  refine ⟨hinv record now hnow, fun answer after hanswer => ?_⟩
  cases hanswer
  exact ⟨hp.hear _ (fun _ h => by cases h) hnow, trivial⟩

variable {p : Record → Site → Prop}

/-- A verb is answered soundly, or its call fails; an effect needs its rule. -/
theorem triple_ask_sound (hp : Steady p)
    (hinv : ∀ record site, p record site → inv site) (verb : Verb)
    (hrule : ∀ record site, p record site → ∀ step, verb.step = some step → rule site verb step) :
    Triple (delivering sound) (conduct inv rule) p (ask verb)
      (fun answer record site => p record site ∧ Heard site verb answer ∧
        sound ⟨.transport verb, (.ok answer : Except Failure verb.Answer)⟩)
      (fun fault record site => p record site ∧ fault.ofReading = true) := by
  have hput : Triple (delivering sound) (conduct inv rule) p
      (question (.transport verb)) (fun answer record site => p record site ∧
        ∀ value, answer = .ok value → Heard site verb value ∧
          sound ⟨.transport verb, (.ok value : Except Failure verb.Answer)⟩)
      (fun fault record site => p record site ∧ fault.ofReading = true) := by
    refine triple_put _ fun record site now hpre hlater => ?_
    have hnow := hp.later hpre hlater
    refine ⟨⟨hinv record now hnow, hrule record now hnow⟩, fun answer after hanswer => ?_⟩
    cases hanswer with
    | transport _ _ hsound =>
        refine ⟨hp.hear _ (fun _ h => by cases h) hnow, fun value hvalue => ?_⟩
        subst hvalue
        exact ⟨List.mem_cons_self .., hsound⟩
  refine Triple.bind hput fun answer => ?_
  cases answer with
  | ok value => exact triple_pure value fun _ _ h => ⟨h.1, h.2 value rfl⟩
  | error failure => exact triple_stop _ fun _ _ h => ⟨h.1, rfl⟩

theorem triple_ask (hp : Steady p) (hinv : ∀ record site, p record site → inv site) (verb : Verb)
    (hrule : ∀ record site, p record site → ∀ step, verb.step = some step → rule site verb step) :
    Triple (delivering sound) (conduct inv rule) p (ask verb)
      (fun answer record site => p record site ∧ Heard site verb answer)
      (fun fault record site => p record site ∧ fault.ofReading = true) :=
  (triple_ask_sound hp hinv verb hrule).mono (fun _ _ _ h => ⟨h.1, h.2.1⟩)
    fun _ _ _ h => h

variable {verb : Verb}

/-- A verb without an effect may always be called. -/
theorem reads_ask (hverb : verb.step = none) : Reads sound inv rule (ask verb)
      fun answer _ site => Heard site verb answer :=
  fun _ hp hinv => triple_ask hp hinv verb fun _ _ _ step hstep => by
    rw [hverb] at hstep
    cases hstep

theorem quiet_ask (hverb : verb.step = none) :
    Quiet sound inv rule (ask verb) := (reads_ask hverb).quiet

theorem reads_blockIf (bad : Prop) {_ : Decidable bad} (problem : Problem) :
    Reads sound inv rule (blockIf bad problem) fun _ _ _ => ¬ bad :=
  Reads.ite (fun _ => reads_stop rfl _) fun hgood =>
    (quiet_pure ()).mono fun _ _ _ _ => hgood

theorem reads_orBlock (problem : Problem) (value : Option α) :
    Reads sound inv rule (orBlock problem value)
      fun held _ _ => value = some held := by
  cases value with
  | none => exact reads_stop rfl _
  | some held => exact (reads_pure held).mono fun _ _ _ h => by rw [h]

theorem reads_parsed (result : Except Problem α) : Reads sound inv rule (parsed result)
      fun value _ _ => result = .ok value := by
  cases result with
  | ok value => exact (reads_pure value).mono fun _ _ _ h => by rw [h]
  | error problem => exact reads_stop rfl _

theorem Reads.onTransportError {handler : Act α} (hfirst : Reads sound inv rule first fact)
    (hhandler : Reads sound inv rule handler fact) :
    Reads sound inv rule (onTransportError first handler) fact :=
  Reads.onFault hfirst fun fault hfault => by
    cases fault with
    | transport => exact hhandler
    | _ => exact reads_stop hfault _

theorem Reads.orRetry (hfirst : Reads sound inv rule first fact) :
    Reads sound inv rule (orRetry first) fact :=
  Reads.onTransportError hfirst (reads_stop rfl _)

/-! ## The live facts -/

theorem quiet_checkRepository (requireBranch : Bool) :
    Quiet sound inv rule (checkRepository requireBranch) := by
  refine Reads.of_read fun record => Quiet.bind (quiet_ask rfl) fun toplevel =>
    Quiet.bind (reads_blockIf _ _).quiet fun _ =>
    Quiet.bind (quiet_ask rfl) fun gitDir =>
    Quiet.bind (reads_blockIf _ _).quiet fun _ =>
    Quiet.bind (quiet_ask rfl) fun configured =>
    Quiet.bind (quiet_ask rfl) fun fetched =>
    Quiet.bind (quiet_ask rfl) fun pushed =>
    Quiet.bind (reads_blockIf _ _).quiet fun _ =>
    Quiet.bind (reads_blockIf _ _).quiet fun _ =>
    Quiet.bind (reads_blockIf _ _).quiet fun _ => Reads.ite (fun _ => ?_)
      fun _ => (quiet_pure ()).mono fun _ _ _ _ _ => trivial
  exact Quiet.bind (quiet_ask rfl) fun headRef =>
    (reads_blockIf _ _).mono fun _ _ _ _ _ => trivial

theorem quiet_liveCandidate (baseOid : Oid) : Quiet sound inv rule (liveCandidate baseOid) :=
  Quiet.bind (quiet_ask rfl) fun _ => Quiet.bind (reads_blockIf _ _).quiet
    fun _ => Quiet.bind (quiet_ask rfl) fun _ => (reads_parsed _).quiet

/-- Going on, the entries are the candidate's. -/
theorem reads_requireCandidateMatches (entries : List CandidateEntry) :
    Reads sound inv rule (requireCandidateMatches entries) fun _ record _ =>
        compare record.authority.candidate.entries entries = none := by
  refine Reads.of_read fun record => ?_
  split
  · exact reads_stop rfl _
  · rename_i hsame
    exact (quiet_pure ()).mono fun _ _ _ _ heq => heq ▸ hsame

theorem quiet_requireUpdateCandidate (baseOid : Oid) :
    Quiet sound inv rule (requireUpdateCandidate baseOid) :=
  Quiet.bind (quiet_ask rfl) fun _ => Quiet.bind (reads_parsed _).quiet
    fun _ => Quiet.bind (quiet_ask rfl) fun _ =>
    Quiet.bind (reads_parsed _).quiet fun entries =>
    Quiet.bind (reads_requireCandidateMatches entries).quiet fun _ =>
    Reads.of_read fun _ => (reads_blockIf _ _).mono fun _ _ _ _ _ => trivial

theorem reads_prUpdateAuthority : Reads sound inv rule prUpdateAuthority
      fun authority record _ => record.authority.kind = .prUpdate authority := by
  refine Reads.of_read fun record => ?_
  split
  · rename_i authority hkind
    exact (reads_pure authority).mono fun _ _ _ hvalue heq => by
      rw [heq, hvalue, hkind]
  · exact reads_stop rfl _

theorem quiet_requirePrUpdateIdentity (expectedHead : Oid) :
    Quiet sound inv rule (requirePrUpdateIdentity expectedHead) := by
  refine Reads.of_read fun record =>
    Quiet.bind reads_prUpdateAuthority.quiet fun authority =>
    Quiet.bind (quiet_ask rfl) fun viewed => ?_
  split
  · exact reads_stop rfl _
  · exact Quiet.bind (quiet_ask rfl) fun _ =>
      (reads_blockIf _ _).mono fun _ _ _ _ _ => trivial

theorem quiet_pendingAmong (names : List String) :
    Quiet sound inv rule (pendingAmong names) := by
  induction names with
  | nil => exact quiet_pure _
  | cons name rest ih =>
      exact Quiet.bind (quiet_ask rfl) fun _ =>
        Reads.ite (fun _ => quiet_pure _) fun _ => ih

theorem quiet_requireNoPendingHistory : Quiet sound inv rule requireNoPendingHistory :=
  Quiet.bind (quiet_pendingAmong _) fun _ => (reads_blockIf _ _).quiet

/-- Going on, the complete parent list was read. -/
theorem reads_requireOneNewCommit (commitOid : Option Oid) (parentOid : Oid) :
    Reads sound inv rule (requireOneNewCommit commitOid parentOid)
      fun _ _ site => Heard site (.commitParents commitOid) [parentOid] := by
  refine Reads.bind (reads_ask rfl) (fun _ => steady_heard _ _) fun parents =>
    (reads_blockIf _ _).mono fun _ record site hgood hheard => ?_
  rwa [not_not.mp hgood] at hheard

theorem reads_remoteBase : Reads sound inv rule remoteBase fun oid record site =>
      Heard site (.lsRemote record.authority.targetBase.ref) (some oid) := by
  refine Reads.of_read fun record =>
    Reads.bind (reads_ask rfl) (fun _ => steady_heard _ _) fun answer =>
      (reads_orBlock _ _).mono fun oid working site hsome hheard heq => ?_
  rw [heq, ← hsome]
  exact hheard

theorem reads_proveDisjointAdvance [FramedDigest] (oldOid newOid : Oid) :
    Reads sound inv rule (proveDisjointAdvance oldOid newOid)
      fun digest _ _ => ∃ paths, digest = framedDigest paths := by
  refine Reads.of_read fun record => Quiet.bind (quiet_ask rfl) fun _ =>
    Quiet.bind (quiet_ask rfl) fun _ => Quiet.bind (reads_blockIf _ _).quiet
    fun _ => Quiet.bind (quiet_ask rfl) fun _ =>
    Quiet.bind (reads_blockIf _ _).quiet fun _ =>
    Quiet.bind (quiet_ask rfl) fun _ => Quiet.bind (reads_parsed _).quiet
    fun changed => Quiet.bind (reads_blockIf _ _).quiet fun _ =>
    (reads_pure _).mono fun _ _ _ h _ => ⟨_, h⟩

theorem quiet_baseCi (oid : Oid) : Quiet sound inv rule (baseCi oid) :=
  Quiet.bind (Reads.orRetry (quiet_ask rfl)) fun _ =>
    Reads.ite (fun _ => quiet_pure _) fun _ =>
      Quiet.bind (reads_blockIf _ _).quiet fun _ => quiet_pure _

theorem reads_reverify : Reads sound inv rule reverify fun observed record site =>
      Heard site (.runReverification record.authority.argv) observed := by
  refine Reads.of_read fun record =>
    Reads.bind (reads_ask rfl) (fun _ => steady_heard _ _) fun observed =>
      Quiet.bind (reads_blockIf _ _).quiet fun _ =>
        (reads_pure observed).mono fun _ working site hvalue hheard heq => ?_
  rw [heq, hvalue]
  exact hheard

/-! ## Deriving a receipt -/

/-- What deriving a receipt has made sure of. -/
structure Derived (record : Record) (step : Step) (binding : Binding)
    (receipt : Receipt) : Prop where
  allowed : step ∈ record.authority.allowedActions
  permits : stepForPhase record.mode record.phase = some step
  unspent : attempts (record.steps.get step) < maxStepAttempts
  minted : ∃ now token, receipt = receiptOf record step binding now token
  valid : validateReceipt receipt step record.authority "receipt" = .ok ()

omit [JsonDigest] in
theorem preconditionProblem_eq_ok {record : Record} {step : Step} {now : Time}
    (h : preconditionProblem record step now = .ok ()) : step ∈ record.authority.allowedActions ∧
      stepForPhase record.mode record.phase = some step ∧
      isRevoked record = false ∧ isExpired record now = false ∧
      attempts (record.steps.get step) < maxStepAttempts := by
  simp only [preconditionProblem, Checked.bind_eq_ok, Checked.exists_passed,
    Checked.failIf_eq_ok, not_not, ne_eq, Bool.not_eq_true] at h
  obtain ⟨hallowed, hpermits, hfree, hfresh, hunspent, -⟩ := h
  exact ⟨hallowed, hpermits, hfree, hfresh, Nat.lt_of_not_le hunspent⟩

theorem triple_derive (hp : Steady p) (hinv : ∀ record site, p record site → inv site) (step : Step)
    (binding : Binding) : Triple (delivering sound) (conduct inv rule) p (derive step binding)
      (fun receipt record site => p record site ∧
        Derived record step binding receipt) (fun _ => p) := by
  have hread : ∀ {α : Type} {act : Act α}, Quiet sound inv rule act →
      Triple (delivering sound) (conduct inv rule) p act (fun _ => p)
        (fun _ => p) := fun hact =>
    (hact p hp hinv).mono (fun _ _ _ h => h.1) fun _ _ _ h => h.1
  refine Triple.bind (hread quiet_clock) fun now =>
    Triple.bind triple_read fun record => ?_
  split
  · exact triple_stop _ fun _ _ h => h.2
  · rename_i hready
    obtain ⟨hallowed, hpermits, -, -, hunspent⟩ :=
      preconditionProblem_eq_ok hready
    refine Triple.bind (((quiet_tokenHex _ ((steady_record fun working =>
      working = record).and hp) fun working site h =>
        hinv working site h.2)).mono (fun _ _ _ h => h.1) fun _ _ _ h => h.1.2)
      fun token => ?_
    cases hvalid : validateReceipt (receiptOf record step binding now token) step
        record.authority "receipt" with
    | error error =>
        simp only [hvalid]
        exact triple_stop _ fun _ _ h => h.2
    | ok _ =>
        simp only [hvalid]
        refine triple_pure _ fun working site h => ⟨h.2, ?_⟩
        rw [h.1]
        exact ⟨hallowed, hpermits, hunspent, ⟨now, token, rfl⟩, hvalid⟩

/-! ## The readings of the steps -/

theorem reads_leftReceipt (step : Step) :
    Reads sound inv rule (leftReceipt step) fun left record _ =>
      left = (record.steps.get step).receipt.filter fun receipt =>
        receipt.state = .executing ∨ receipt.state = .failedRetryable :=
  Reads.of_read fun _ => (reads_pure _).mono fun _ _ _ hvalue heq => by
    rw [heq, hvalue]

theorem quiet_indexMatches (baseOid : Oid) : Quiet sound inv rule (indexMatches baseOid) :=
  Reads.of_read fun _ => Quiet.bind (quiet_ask rfl) fun _ =>
    Quiet.bind (reads_parsed _).quiet fun _ =>
      (quiet_pure _).mono fun _ _ _ _ _ => trivial

/-- Going on, a `prUpdate` commit is one new commit on the approved head. -/
theorem reads_requireUpdateCommit (commitOid : Option Oid) :
    Reads sound inv rule (requireUpdateCommit commitOid)
      fun _ record site => record.mode = .prUpdate → Heard site (.commitParents commitOid)
          [record.authority.originalBaseline.commitSha] := by
  refine Reads.of_read fun record => Reads.ite (fun _ => ?_) fun hmode =>
    (quiet_pure ()).mono fun _ _ _ _ heq hupdate =>
      absurd (heq ▸ hupdate) hmode
  exact (reads_requireOneNewCommit _ _).mono fun _ _ _ hheard heq _ =>
    heq ▸ hheard

theorem quiet_requireStaged (staged : Digest) :
    Quiet sound inv rule (requireStaged staged) := by
  refine Reads.of_read fun record => ?_
  split
  · exact (quiet_pure ()).mono fun _ _ _ _ _ => trivial
  · exact (reads_blockIf _ _).mono fun _ _ _ _ _ => trivial

theorem quiet_requireStagedCandidate (current : Oid) :
    Quiet sound inv rule (requireStagedCandidate current) := by
  refine Reads.of_read fun record => Reads.ite (fun _ => ?_) fun _ => ?_
  · exact Quiet.bind quiet_requireNoPendingHistory fun _ =>
      Quiet.bind (quiet_requirePrUpdateIdentity _) fun _ =>
        (quiet_requireUpdateCandidate _).mono fun _ _ _ _ _ => trivial
  · exact Quiet.bind (quiet_liveCandidate _) fun entries =>
      (reads_requireCandidateMatches entries).mono fun _ _ _ _ _ => trivial

theorem Reads.afterCommit (hfirst : Reads sound inv rule first fact) :
    Reads sound inv rule (afterCommit first) fact := by
  refine Reads.onFault hfirst fun fault hfault => ?_
  split
  · exact reads_stop rfl _
  · exact reads_stop hfault _

theorem reads_commitOid : Reads sound inv rule commitOid
      fun commit record _ => recordedCommit record = some commit :=
  Reads.of_read fun _ => (reads_orBlock _ _).mono fun _ _ _ hsome heq => heq ▸ hsome

theorem reads_prUpdatePushOldOid (commit : Oid) :
    Reads sound inv rule (prUpdatePushOldOid commit) fun expected record _ =>
      expected = record.authority.originalBaseline.commitSha := by
  refine Reads.of_read fun _ =>
    Quiet.bind (reads_requireOneNewCommit _ _).quiet fun _ =>
    Quiet.bind (quiet_requirePrUpdateIdentity _) fun _ =>
    (reads_pure _).mono fun _ _ _ hvalue heq => heq ▸ hvalue

theorem quiet_prDisposition (headSha : Oid) :
    Quiet sound inv rule (prDisposition headSha) := by
  refine Reads.of_read fun _ => Quiet.bind (quiet_ask rfl) fun listed =>
    Quiet.bind (reads_blockIf _ _).quiet fun _ => ?_
  split
  · exact (quiet_pure _).mono fun _ _ _ _ _ => trivial
  · exact (quiet_pure _).mono fun _ _ _ _ _ => trivial
  · exact reads_stop rfl _

end

end DodgingInfinity.PrDelivery
