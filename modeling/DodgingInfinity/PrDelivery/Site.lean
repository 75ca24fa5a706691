import DodgingInfinity.Library.Triple
import DodgingInfinity.PrDelivery.Advance

/-!
# The site of a delivery

What a run of the delivery machine happens in: the stored record, the other
deliveries of the store, and the log of every question that was answered.  A
transport call may be answered anything, a read of the store may be refused and
a save may not happen.  Meanwhile another process may revoke the delivery, and
the other deliveries may change.
-/

namespace DodgingInfinity.PrDelivery

open Procedure

/-- One answered question. -/
structure Exchange where
  call : Call
  answer : call.Answer

/-- The stored record, the other deliveries, and what was answered so far, the
latest answer first. -/
structure Site where
  stored : Record
  others : List Record
  log : List Exchange

/-- The site with one more answer in its log. -/
def Site.hear (site : Site) (call : Call) (answer : call.Answer) : Site :=
  { site with log := ⟨call, answer⟩ :: site.log }

@[simp] theorem Site.hear_stored (site : Site) (call : Call)
    (answer : call.Answer) : (site.hear call answer).stored = site.stored := rfl

@[simp] theorem Site.hear_log (site : Site) (call : Call)
    (answer : call.Answer) :
    (site.hear call answer).log = ⟨call, answer⟩ :: site.log := rfl

/-- The site after the record was saved. -/
def Site.keep (site : Site) (record : Record) : Site :=
  { site with
    stored := record
    log := ⟨.save record, (.ok () : Except Failure Unit)⟩ :: site.log }

@[simp] theorem Site.keep_stored (site : Site) (record : Record) :
    (site.keep record).stored = record := rfl

/-- The effect a verb has, by the step whose receipt stands for it. -/
def Verb.step : Verb → Option Step
  | readTreeTwoWay _ _ | updateRef _ _ _ => some .baseRefresh
  | commit => some .commit
  | push _ _ => some .push
  | ghPrCreate _ _ => some .prCreate
  | _ => none

section

variable [JsonDigest]

/-- A read answers what is stored, a save stores a valid record, each may fail,
and any other answer is one that a sound world gives. -/
inductive Site.Answers (sound : Exchange → Prop) (site : Site) :
    (call : Call) → call.Answer → Site → Prop
  | loaded (deliveryId : String) (h : site.stored.deliveryId = deliveryId) :
      Answers sound site (.load deliveryId) (.ok ⟨site.stored, h⟩)
        (site.hear (.load deliveryId) (.ok ⟨site.stored, h⟩))
  | unread (deliveryId : String) (failure : Failure) :
      Answers sound site (.load deliveryId) (.error failure)
        (site.hear (.load deliveryId) (.error failure))
  | saved (record : Record) (h : validateAuthorization record = .ok ()) :
      Answers sound site (.save record) (.ok ()) (site.keep record)
  | unsaved (record : Record) (failure : Failure) :
      Answers sound site (.save record) (.error failure)
        (site.hear (.save record) (.error failure))
  | clock (now : Time) (h : sound ⟨.clock, now⟩) :
      Answers sound site .clock now (site.hear .clock now)
  | tokenHex (token : String) (h : sound ⟨.tokenHex, token⟩) :
      Answers sound site .tokenHex token (site.hear .tokenHex token)
  | transport (verb : Verb) (answer : Except Failure verb.Answer)
      (h : sound ⟨.transport verb, answer⟩) : Answers sound site (.transport verb) answer
        (site.hear (.transport verb) answer)

variable {sound : Exchange → Prop} {site next : Site} {call : Call}

/-- The log is what was answered. -/
theorem Site.Answers.logged {answer : call.Answer} (h : Site.Answers sound site call answer next) :
    next.log = ⟨call, answer⟩ :: site.log := by
  cases h <;> rfl

/-- Another process revokes the delivery, or writes other deliveries. -/
inductive Site.Drifts (site : Site) : Site → Prop
  | revoked (revokedBy reason : String) (now : Time) (after : Record)
      (h : revokedRecord site.stored revokedBy reason now = .ok after)
      (hvalid : validateAuthorization after = .ok ()) :
      Drifts site { site with stored := after }
  | elsewhere (others : List Record) : Drifts site { site with others := others }

/-- The site as the surroundings of the machine. -/
def delivering (sound : Exchange → Prop) :
    Surroundings Call Call.Answer Site where
  answers := Site.Answers sound
  drifts := Site.Drifts

/-- What a machine may ask where an invariant holds: an effect only where its
rule holds. -/
def conduct (inv : Site → Prop) (rule : Site → Verb → Step → Prop) (site : Site) : Call → Prop
  | .transport verb => inv site ∧ ∀ step, verb.step = some step →
      rule site verb step
  | _ => inv site

omit [JsonDigest] in
theorem conduct_inv {inv : Site → Prop} {rule : Site → Verb → Step → Prop}
    (h : conduct inv rule site call) : inv site := by
  cases call with
  | transport verb => exact h.1
  | _ => exact h

/-- What holds of a working copy and a site whatever others do and whatever is
answered, unless something is saved. -/
structure Steady (p : Record → Site → Prop) : Prop where
  drift : ∀ {record : Record} {site next : Site}, p record site → site.Drifts next → p record next
  hear : ∀ {record : Record} {site : Site} {call : Call} (answer : call.Answer),
    (∀ saved, call ≠ .save saved) → p record site → p record (site.hear call answer)

variable {p : Record → Site → Prop} {record : Record}

theorem Steady.later (hp : Steady p) {now : Site}
    (h : p record site) (hlater : (delivering sound).Later site now) :
    p record now := by
  induction hlater with
  | refl => exact h
  | tail _ hdrift ih => exact hp.drift ih hdrift

variable {q : Site → Prop}

/-- What is steady of the site alone. -/
theorem Steady.driftSite (hq : Steady fun _ => q) (h : q site)
    (hdrift : site.Drifts next) : q next :=
  @Steady.drift _ _ hq site.stored _ _ h hdrift

theorem Steady.hearSite (hq : Steady fun _ => q) (answer : call.Answer)
    (hcall : ∀ saved, call ≠ .save saved) (h : q site) : q (site.hear call answer) :=
  @Steady.hear _ _ hq site.stored _ _ answer hcall h

theorem Steady.and {q : Record → Site → Prop} (hp : Steady p)
    (hq : Steady q) : Steady fun record site => p record site ∧ q record site :=
  ⟨fun h hdrift => ⟨hp.drift h.1 hdrift, hq.drift h.2 hdrift⟩,
    fun answer hcall h => ⟨hp.hear answer hcall h.1, hq.hear answer hcall h.2⟩⟩

theorem Steady.or {q : Record → Site → Prop} (hp : Steady p)
    (hq : Steady q) : Steady fun record site => p record site ∨ q record site :=
  ⟨fun h hdrift => h.imp (hp.drift · hdrift) (hq.drift · hdrift),
    fun answer hcall h => h.imp (hp.hear answer hcall) (hq.hear answer hcall)⟩

theorem steady_const (p : Prop) : Steady fun _ _ => p :=
  ⟨fun h _ => h, fun _ _ h => h⟩

/-- The working copy is what it is. -/
theorem steady_record (p : Record → Prop) : Steady fun record _ => p record :=
  ⟨fun h _ => h, fun _ _ h => h⟩

/-- The transport answered this to the verb. -/
def Heard (site : Site) (verb : Verb) (answer : verb.Answer) : Prop :=
  ⟨.transport verb, (.ok answer : Except Failure verb.Answer)⟩ ∈ site.log

omit [JsonDigest] in
theorem Heard.hear {verb : Verb} {answer : verb.Answer}
    (h : Heard site verb answer) (call : Call) (other : call.Answer) :
    Heard (site.hear call other) verb answer :=
  List.mem_cons_of_mem _ h

theorem Site.Drifts.log (h : site.Drifts next) :
    next.log = site.log := by
  cases h <;> rfl

theorem steady_heard (verb : Verb) (answer : verb.Answer) :
    Steady fun _ site => Heard site verb answer :=
  ⟨fun h hdrift => by
      unfold Heard at h ⊢
      rwa [hdrift.log],
    fun other _ h => h.hear _ other⟩

variable {now : Time} {after : Record} {revokedBy reason : String}

omit [JsonDigest] in
/-- A revocation leaves the authority and the steps, and moves a record that is
not terminal to its phase. -/
theorem revokedRecord_eq_ok (h : revokedRecord record revokedBy reason now = .ok after) :
    after.authority = record.authority ∧ after.steps = record.steps ∧
      after.baseState = record.baseState ∧ after.pullRequest = record.pullRequest ∧
      (after.phase = .revoked ∨
        after.phase = record.phase ∧ record.phase ∈ terminalPhases) := by
  simp only [revokedRecord, moveRevoked, Checked.bind_eq_ok, Checked.pure_eq_ok] at h
  obtain ⟨moved, hmoved, rfl⟩ := h
  split at hmoved
  · obtain ⟨-, rfl⟩ := applyTransition_eq_ok.mp hmoved
    exact ⟨rfl, rfl, rfl, rfl, .inl rfl⟩
  · rename_i hterminal
    simp only [Checked.pure_eq_ok] at hmoved
    obtain rfl := hmoved
    exact ⟨rfl, rfl, rfl, rfl, .inr ⟨rfl, not_not.mp hterminal⟩⟩

omit [JsonDigest] in
theorem isRevoked_of_revokedRecord (h : revokedRecord record revokedBy reason now = .ok after) :
    isRevoked after = true := by
  simp only [revokedRecord, moveRevoked, Checked.bind_eq_ok, Checked.pure_eq_ok] at h
  obtain ⟨moved, hmoved, rfl⟩ := h
  split at hmoved
  · obtain ⟨-, rfl⟩ := applyTransition_eq_ok.mp hmoved
    rfl
  · simp only [Checked.pure_eq_ok] at hmoved
    obtain rfl := hmoved
    rfl

variable {α : Type} {trace : List (Asked Call Call.Answer Site)}

variable {final : Site} {exchange : Exchange}

theorem log_of_executes
    {program : Program Call Call.Answer α} {ending : Ending α}
    (h : Executes (delivering sound) program site trace ending final)
    (hin : exchange ∈ final.log) : exchange ∈ site.log ∨
      ∃ asked ∈ trace, exchange = ⟨asked.question, asked.answer⟩ := by
  induction h with
  | done value world => exact .inl hin
  | cutOff program world => exact .inl hin
  | drift hdrift hrest ih =>
      rcases ih hin with hbefore | hasked
      · exact .inl (Site.Drifts.log hdrift ▸ hbefore)
      · exact .inr hasked
  | ask hanswer hrest ih =>
      rcases ih hin with hbefore | ⟨asked, hasked, heq⟩
      · rw [Site.Answers.logged hanswer] at hbefore
        rcases List.mem_cons.mp hbefore with rfl | hbefore
        · exact .inr ⟨_, List.mem_cons_self .., rfl⟩
        · exact .inl hbefore
      · exact .inr ⟨asked, List.mem_cons_of_mem _ hasked, heq⟩

variable {starts : Program Call Call.Answer α → Prop} {origin : Site}

/-- Every entry of the log was asked for. -/
theorem log_of_sessions (h : Sessions (delivering sound) starts origin trace final)
    (hin : exchange ∈ final.log) : exchange ∈ origin.log ∨
      ∃ asked ∈ trace, exchange = ⟨asked.question, asked.answer⟩ := by
  induction h with
  | start => exact .inl hin
  | drift hrun hdrift ih => exact ih (Site.Drifts.log hdrift ▸ hin)
  | session hrun hstarts hexecutes ih =>
      rcases log_of_executes hexecutes hin with hbefore | ⟨asked, hasked, heq⟩
      · rcases ih hbefore with horigin | ⟨asked, hasked, heq⟩
        · exact .inl horigin
        · exact .inr ⟨asked, List.mem_append_left _ hasked, heq⟩
      · exact .inr ⟨asked, List.mem_append_right _ hasked, heq⟩

/-! ## A scripted transport -/

/-- A transport that answers every verb by what has been asked so far. -/
abbrev Script : Type := (verb : Verb) → Site → Except Failure verb.Answer

/-- A read of a store that works. -/
def Site.load (site : Site) (deliveryId : String) :
    Except Failure { record : Record // record.deliveryId = deliveryId } :=
  if h : site.stored.deliveryId = deliveryId then .ok ⟨site.stored, h⟩
  else .error .missingRecord

/-- A save in a store that works. -/
def Site.save (site : Site) (record : Record) : Except Failure Unit × Site :=
  match validateAuthorization record with
  | .ok () => (.ok (), site.keep record)
  | .error _ => (.error .store, site.hear (.save record) (.error .store))

/-- An undisturbed site, with a store that works and a transport that follows a
script. -/
def Site.perform (script : Script) (now : Time) (token : String) :
    (call : Call) → Site → call.Answer × Site
  | .load deliveryId, site => (site.load deliveryId,
      site.hear (.load deliveryId) (site.load deliveryId))
  | .save record, site => site.save record
  | .clock, site => (now, site.hear .clock now)
  | .tokenHex, site => (token, site.hear .tokenHex token)
  | .transport verb, site =>
      (script verb site, site.hear (.transport verb) (script verb site))

theorem Site.perform_answers {script : Script} {token : String}
    (hsound : ∀ site call, sound ⟨call, (Site.perform script now token call site).1⟩)
    (site : Site) (call : Call) :
    Site.Answers sound site call (Site.perform script now token call site).1
      (Site.perform script now token call site).2 := by
  cases call with
  | load deliveryId =>
      simp only [perform, load]
      split
      · exact .loaded _ _
      · exact .unread _ _
  | save record =>
      simp only [perform, save]
      split
      · rename_i hvalid
        exact .saved record hvalid
      · exact .unsaved _ _
  | clock => exact .clock _ (hsound site .clock)
  | tokenHex => exact .tokenHex _ (hsound site .tokenHex)
  | transport verb => exact .transport verb _ (hsound site (.transport verb))

/-- Programs run one after another in a scripted site are sessions. -/
def Site.runAll {α : Type} (script : Script) (now : Time) (token : String)
    (programs : List (Program Call Call.Answer α)) (site : Site) : Site :=
  programs.foldl (fun site program => (program.run (Site.perform script now token) site).2) site

theorem Site.perform_others (script : Script) (now : Time) (token : String)
    (call : Call) (site : Site) :
    (Site.perform script now token call site).2.others = site.others := by
  cases call with
  | save record =>
      simp only [perform, save]
      split <;> rfl
  | _ => rfl

theorem Site.asks_others (script : Script) (now : Time)
    (token : String) (program : Program Call Call.Answer α) (site : Site) :
    (program.run (Site.perform script now token) site).2.others = site.others ∧
      ∀ asked ∈ program.asks (Site.perform script now token) site,
        asked.before.others = site.others := by
  induction program generalizing site with
  | done value => exact ⟨rfl, by simp [Program.asks]⟩
  | ask call follow ih =>
      have hkept := Site.perform_others script now token call site
      obtain ⟨hrun, hasks⟩ := ih (Site.perform script now token call site).1
        (Site.perform script now token call site).2
      refine ⟨hrun.trans hkept, fun asked hasked => ?_⟩
      rcases List.mem_cons.mp hasked with rfl | hrest
      · rfl
      · exact (hasks asked hrest).trans hkept

theorem Site.runAll_sessions (script : Script) (now : Time) (token : String)
    (hsound : ∀ site call, sound ⟨call, (Site.perform script now token call site).1⟩)
    {programs : List (Program Call Call.Answer α)}
    (hstarts : ∀ program ∈ programs, starts program)
    (hrun : Sessions (delivering sound) starts origin trace site)
    (hsite : site.others = origin.others)
    (htrace : ∀ asked ∈ trace, asked.before.others = origin.others) :
    ∃ after, Sessions (delivering sound) starts origin after
        (Site.runAll script now token programs site) ∧
      ∀ asked ∈ after, asked.before.others = origin.others := by
  induction programs generalizing site trace with
  | nil => exact ⟨trace, hrun, htrace⟩
  | cons program rest ih =>
      obtain ⟨hothers, hasks⟩ := Site.asks_others script now token program site
      refine ih (fun other hother => hstarts other (List.mem_cons_of_mem _ hother))
        (.session hrun (hstarts program (List.mem_cons_self ..))
          (program.run_executes (Site.perform_answers hsound) site)) (hothers.trans hsite)
            fun asked hasked => ?_
      rcases List.mem_append.mp hasked with hbefore | hnew
      · exact htrace asked hbefore
      · exact (hasks asked hnew).trans hsite

end

end DodgingInfinity.PrDelivery
