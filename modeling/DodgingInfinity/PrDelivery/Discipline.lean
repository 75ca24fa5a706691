import DodgingInfinity.PrDelivery.Advance

/-!
# What the machine does with the revocation it last read

The machine never writes a revocation of its own: what it saves carries the
revocation it last read.  And once it has read one, it neither derives a
receipt nor calls the transport.
-/

namespace DodgingInfinity.PrDelivery

open Procedure

/-- The discipline of one delivery: the state is the revocation last read. -/
def discipline (deliveryId : String) : Protocol Call Call.Answer where
  State := Option Revocation
  allows seen
    | .load asked => asked = deliveryId
    | .save record => record.revocation = seen ∧ record.deliveryId = deliveryId
    | .clock => True
    | .tokenHex => seen = none
    | .transport _ => seen = none
  hears seen
    | .load _, .ok record => record.val.revocation
    | .load _, .error _ => seen
    | .save _, _ => seen
    | .clock, _ => seen
    | .tokenHex, _ => seen
    | .transport _, _ => seen

variable {deliveryId : String} {p : Option Revocation → Prop}

/-- The working copy carries the revocation last read, which is as it must
be. -/
def Holds (deliveryId : String) (p : Option Revocation → Prop)
    (record : Record) (seen : Option Revocation) : Prop :=
  record.revocation = seen ∧ record.deliveryId = deliveryId ∧ p seen

/-- The working copy carries the revocation last read. -/
abbrev Current (deliveryId : String) : Record → Option Revocation → Prop :=
  Holds deliveryId fun _ => True

/-- Neither is revoked. -/
abbrev Clear (deliveryId : String) : Record → Option Revocation → Prop :=
  Holds deliveryId (· = none)

/-- The faults that a step may go on from. -/
def Fault.isHandled : Fault → Bool
  | .block _ | .retry | .candidate _ | .transport => true
  | .receipt _ | .authorization _ | .store _ | .expectedStep | .typeError =>
      false

/-- No fault that a step goes on from comes after a revocation was read. -/
def Ends (deliveryId : String) (fault : Fault) (record : Record)
    (seen : Option Revocation) : Prop :=
  Current deliveryId record seen ∧ (seen = none ∨ fault.isHandled = false)

/-- Bookkeeping: it reads nothing and starts nothing, whatever was read, and
no step goes on from where it fails. -/
def Settles (deliveryId : String) {α : Type} (act : Act α) : Prop :=
  ∀ p, Keeps (discipline deliveryId) (Holds deliveryId p) act
    (fun _ => Holds deliveryId p) fun fault record seen =>
      Holds deliveryId p record seen ∧ fault.isHandled = false

/-- Live work: as long as no revocation was read. -/
def Live (deliveryId : String) {α : Type} (act : Act α) : Prop :=
  Keeps (discipline deliveryId) (Clear deliveryId) act (fun _ => Clear deliveryId) (Ends deliveryId)

variable {record : Record}

theorem Holds.current {seen : Option Revocation}
    (h : Holds deliveryId p record seen) : Current deliveryId record seen :=
  ⟨h.1, h.2.1, trivial⟩

theorem Holds.ends {fault : Fault}
    {seen : Option Revocation} (h : Clear deliveryId record seen) :
    Ends deliveryId fault record seen :=
  ⟨h.current, .inl h.2.2⟩

variable {α : Type}

theorem Settles.live {act : Act α} (h : Settles deliveryId act) : Live deliveryId act :=
  (h _).mono (fun _ _ _ hclear => hclear) fun _ _ _ hclear => hclear.1.ends

/-- Bookkeeping after a revocation was read. -/
theorem Settles.current {act : Act α} (h : Settles deliveryId act) :
    Keeps (discipline deliveryId) (Current deliveryId) act
      (fun _ => Current deliveryId) (Ends deliveryId) :=
  (h _).mono (fun _ _ _ hcurrent => hcurrent) fun _ _ _ hcurrent =>
    ⟨hcurrent.1, .inr hcurrent.2⟩

/-! ## Composition -/

theorem Settles.bind {β : Type} {first : Act α} {next : α → Act β}
    (hfirst : Settles deliveryId first) (hnext : ∀ value, Settles deliveryId (next value)) :
    Settles deliveryId (first >>= next) :=
  fun p => (hfirst p).bind fun value => hnext value p

theorem Live.bind {β : Type} {first : Act α} {next : α → Act β} (hfirst : Live deliveryId first)
    (hnext : ∀ value, Live deliveryId (next value)) : Live deliveryId (first >>= next) :=
  Keeps.bind hfirst hnext

theorem settles_pure (value : α) : Settles deliveryId (pure value : Act α) :=
  fun _ => keeps_pure value fun _ _ h => h

theorem settles_stop {fault : Fault} (hfault : fault.isHandled = false) :
    Settles deliveryId (stop fault : Act α) :=
  fun _ => keeps_stop fault fun _ _ h => ⟨h, hfault⟩

theorem settles_read : Settles deliveryId (read : Act Record) :=
  fun _ => keeps_read fun _ _ h => h

theorem settles_clock : Settles deliveryId clock :=
  fun _ => keeps_put _ (fun _ _ _ => trivial) fun _ _ _ h => h

/-- A change of the working copy that leaves the revocation and the authority
alone. -/
theorem settles_change {f : Record → Record}
    (hrevocation : ∀ record, (f record).revocation = record.revocation)
    (hauthority : ∀ record, (f record).deliveryId = record.deliveryId) :
    Settles deliveryId (change f : Act Unit) :=
  fun _ => keeps_change f fun record _ h =>
    ⟨(hrevocation record).trans h.1, (hauthority record).trans h.2.1, h.2.2⟩

theorem Settles.ite {c : Prop} {_ : Decidable c} {yes no : Act α}
    (hyes : Settles deliveryId yes) (hno : Settles deliveryId no) :
    Settles deliveryId (if c then yes else no) :=
  fun p => keeps_ite c (fun _ => hyes p) fun _ => hno p

theorem Live.ite {c : Prop} {_ : Decidable c} {yes no : Act α}
    (hyes : Live deliveryId yes) (hno : Live deliveryId no) :
    Live deliveryId (if c then yes else no) :=
  keeps_ite c (fun _ => hyes) fun _ => hno

theorem live_pure (value : α) : Live deliveryId (pure value : Act α) := (settles_pure value).live

theorem live_stop (fault : Fault) : Live deliveryId (stop fault : Act α) :=
  keeps_stop fault fun _ _ h => h.ends

theorem live_read : Live deliveryId (read : Act Record) := settles_read.live

theorem live_clock : Live deliveryId clock := settles_clock.live

theorem live_ask (verb : Verb) : Live deliveryId (ask verb) := by
  refine Keeps.bind (keeps_put _ (fun _ _ h => h.2.2) fun _ _ _ h => h) fun answer => ?_
  cases answer with
  | ok value => exact live_pure value
  | error failure => exact live_stop .transport

theorem live_tokenHex : Live deliveryId tokenHex :=
  keeps_put _ (fun _ _ h => h.2.2) fun _ _ _ h => h

/-- A handler goes on with live work from the faults it may handle, and passes
the others on. -/
theorem Live.onFault {first : Act α} {handler : Fault → Act α} (hfirst : Live deliveryId first)
    (hhandler : ∀ fault, Live deliveryId (handler fault))
    (hpasses : ∀ fault, fault.isHandled = false → handler fault = stop fault) :
    Live deliveryId (first.onFault handler) := by
  refine Keeps.onFault hfirst fun fault => ?_
  intro record seen hends
  rcases hends with ⟨hcurrent, hnone | hpassed⟩
  · exact hhandler fault record seen ⟨hcurrent.1, hcurrent.2.1, hnone⟩
  · rw [hpasses fault hpassed]
    exact ⟨hcurrent, .inr hpassed⟩

/-! ## The pieces of the machine -/

theorem settles_check (result : Except AuthorizationError α) :
    Settles deliveryId (check result) := by
  cases result with
  | ok value => exact settles_pure value
  | error error => exact settles_stop rfl

theorem settles_modifyEntry (step : Step) (f : StepEntry → StepEntry) :
    Settles deliveryId (modifyEntry step f) :=
  settles_change (fun _ => rfl) fun _ => rfl

/-- A phase change keeps the revocation and the authority. -/
theorem keeps_moved {after : Record} {new : Phase} {now : Time}
    (h : applyTransition record new now = .ok after) : after.revocation = record.revocation ∧
      after.deliveryId = record.deliveryId := by
  obtain ⟨-, rfl⟩ := applyTransition_eq_ok.mp h
  exact ⟨rfl, rfl⟩

/-- The working copy read and moved on to a phase. -/
theorem settles_move {new : Phase} {now : Time} {next : Act α} (hnext : Settles deliveryId next) :
    Settles deliveryId (do
      let record ← read
      let after ← check (applyTransition record new now)
      change fun _ => after
      next) := by
  intro p record seen hholds
  show (Procedure.andThen (check (applyTransition record new now)) _ record).Keeps _ _ seen
  cases hmove : applyTransition record new now with
  | error error => exact ⟨hholds, rfl⟩
  | ok after =>
      obtain ⟨hrevocation, hid⟩ := keeps_moved hmove
      exact hnext p after seen ⟨hrevocation.trans hholds.1, hid.trans hholds.2.1, hholds.2.2⟩

theorem settles_transition (new : Phase) :
    Settles deliveryId (transition new) := by
  refine settles_clock.bind fun now => ?_
  intro p record seen hholds
  show (Procedure.andThen (check (applyTransition record new now)) _ record).Keeps _ _ seen
  cases hmove : applyTransition record new now with
  | error error => exact ⟨hholds, rfl⟩
  | ok after =>
      obtain ⟨hrevocation, hid⟩ := keeps_moved hmove
      exact ⟨hrevocation.trans hholds.1, hid.trans hholds.2.1, hholds.2.2⟩

section Saves

variable [JsonDigest]

/-- A save puts the working copy down with the revocation last read. -/
theorem settles_persist : Settles deliveryId persist := by
  refine settles_clock.bind fun now => ?_
  refine (settles_change (by intro _; rfl) (by intro _; rfl)).bind fun _ => ?_
  intro p record seen hholds
  show (Procedure.andThen (check (validateAuthorization record)) _ record).Keeps _ _ seen
  cases validateAuthorization record with
  | error error => exact ⟨hholds, rfl⟩
  | ok _ =>
      refine ⟨⟨hholds.1, hholds.2.1⟩, fun answer => ?_⟩
      match answer with
      | .ok _ => exact hholds
      | .error _ => exact ⟨hholds, rfl⟩

theorem settles_block (problem : Problem) :
    Settles deliveryId (block problem) := by
  refine settles_clock.bind fun now => ?_
  refine (settles_change (by intro _; rfl) (by intro _; rfl)).bind fun _ => ?_
  refine settles_read.bind fun record => ?_
  have hentry : ∀ step, Settles deliveryId (blockEntry step)
    | none => settles_pure ()
    | some step => settles_modifyEntry step blockedEntry
  refine (hentry _).bind fun _ => ?_
  exact .ite (settles_move settles_persist) settles_persist

theorem settles_retry : (step : Option Step) → Settles deliveryId (retry step)
  | none => (settles_change (by intro _; rfl) (by intro _; rfl)).bind fun _ =>
      settles_persist
  | some step => (settles_modifyEntry step _).bind fun _ =>
      (settles_change (by intro _; rfl) (by intro _; rfl)).bind fun _ => settles_persist

omit [JsonDigest] in
theorem settles_void (step : Step) : Settles deliveryId (void step) :=
  settles_modifyEntry step voidedEntry

theorem settles_succeed (step : Step) (observed : Observed) (new : Phase) :
    Settles deliveryId (succeed step observed new) := by
  refine settles_read.bind fun record => ?_
  cases (record.steps.get step).receipt with
  | none => exact settles_stop rfl
  | some receipt =>
      exact (settles_modifyEntry step _).bind fun _ =>
        (settles_transition new).bind fun _ => settles_persist

omit [JsonDigest] in
/-- A read of the store answers the record with the revocation it has now. -/
theorem keeps_load : Keeps (discipline deliveryId) (Clear deliveryId) (load deliveryId)
      (fun fresh record seen => fresh.revocation = seen ∧
        record.deliveryId = deliveryId) (Ends deliveryId) := by
  intro record seen hclear
  refine ⟨rfl, fun answer => ?_⟩
  match answer with
  | .error failure => exact hclear.ends
  | .ok fresh => exact ⟨rfl, hclear.2.1⟩

omit [JsonDigest] in
/-- A refresh folds in the stored revocation; it answers no only where there is
none. -/
theorem keeps_refresh : Keeps (discipline deliveryId) (Clear deliveryId) refresh
      (fun stopped record seen => Current deliveryId record seen ∧
        (stopped = false → seen = none)) (Ends deliveryId) := by
  intro record seen hclear
  show ((load record.deliveryId >>= _ : Act Bool) record).Keeps _ _ seen
  rw [hclear.2.1]
  refine keeps_load.bind (fun fresh => ?_) record seen hclear
  intro working seen ⟨hfresh, hid⟩
  have hcurrent : Current deliveryId
      { working with revocation := fresh.revocation } seen :=
    ⟨hfresh, hid, trivial⟩
  show ((if isRevoked { working with revocation := fresh.revocation } = true
    then pure true else _ : Act Bool) _).Keeps _ _ seen
  split
  · exact ⟨hcurrent, fun h => by cases h⟩
  · rename_i hrevoked
    have hnone : fresh.revocation = none := by
      simpa [isRevoked] using hrevoked
    exact ⟨trivial, fun now => ⟨hcurrent, fun _ => hfresh.symm.trans hnone⟩⟩

theorem live_derive (step : Step) (binding : Binding) :
    Live deliveryId (derive step binding) := by
  refine live_clock.bind fun now => live_read.bind fun record => ?_
  cases preconditionProblem record step now with
  | error problem => exact live_stop _
  | ok _ =>
      exact live_tokenHex.bind fun token =>
        (settles_check _).live.bind fun _ => live_pure _

/-- A step stopped between its receipt and its effect voids the receipt. -/
theorem stops_start (step : Step) : Keeps (discipline deliveryId) (Current deliveryId)
      (do
        void step
        persist
        let record ← read
        stop (.receipt (if isRevoked record then .revoked else .expired)) : Act Unit)
      (fun _ => Clear deliveryId) (Ends deliveryId) := by
  refine (settles_void step).current.bind fun _ => ?_
  refine settles_persist.current.bind fun _ => ?_
  refine settles_read.current.bind fun record => ?_
  exact keeps_stop _ fun _ _ h => ⟨h, .inr rfl⟩

/-- After a receipt is derived the revocation is read again before anything
else; one that has come stops the step. -/
theorem live_start (step : Step) (binding : Binding) :
    Live deliveryId (start step binding) := by
  refine (live_derive step binding).bind fun receipt => ?_
  refine (settles_modifyEntry step _).live.bind fun _ => ?_
  refine settles_persist.live.bind fun _ => ?_
  refine Keeps.bind keeps_refresh fun stopped => ?_
  cases stopped with
  | false =>
      intro record seen h
      exact ⟨h.1.1, h.1.2.1, h.2 rfl⟩
  | true =>
      intro record seen h
      exact stops_start step record seen h.1

end Saves

end DodgingInfinity.PrDelivery
