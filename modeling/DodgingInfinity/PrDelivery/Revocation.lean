import DodgingInfinity.Library.WorkingCopy
import DodgingInfinity.PrDelivery.DisciplinedSteps

/-!
# A revocation and a working machine

One process drives a delivery, question by question; between any two of them
another process may revoke it.  The stored revocation is a durable mark and the
machine's record a working copy of it, so a revocation is kept exactly where the
machine reads it before its next save.
-/

namespace DodgingInfinity.PrDelivery

open WorkingCopy (Moment Marked Noticed Kept Heeded)

section Model

variable [JsonDigest] [FramedDigest] {deliveryId : String}

/-- The store, and what is left to run of a call of `advanceOnce`. -/
structure System where
  document : Document
  process : Program Call Call.Answer (Except Fault Outcome)

inductive Event where
  | begun
  | called (call : Call) (answer : call.Answer)
  | revoked
  | elsewhere

/-- One question answered, atomically: a read answers what is stored, a save
stores a valid record, each may fail, and every other answer is possible. -/
inductive Answered (document : Document) :
    (call : Call) → call.Answer → Document → Prop where
  | load {deliveryId : String} {record : Record}
      (h : document.deliveries.get? deliveryId = some record) : Answered document (.load deliveryId)
        (Except.ok ⟨record, document.keyed deliveryId record h⟩) document
  | missing {deliveryId : String}
      (h : document.deliveries.get? deliveryId = none) :
      Answered document (.load deliveryId) (Except.error .missingRecord)
        document
  | unread (deliveryId : String) :
      Answered document (.load deliveryId) (Except.error .store) document
  | save {record : Record} (h : validateAuthorization record = .ok ()) :
      Answered document (.save record) (Except.ok ()) (document.put record h)
  | unsaved (record : Record) :
      Answered document (.save record) (Except.error .store) document
  | clock (now : Time) : Answered document .clock now document
  | tokenHex (token : String) : Answered document .tokenHex token document
  | transport (verb : Verb) (answer : Except Failure verb.Answer) :
      Answered document (.transport verb) answer document

/-- One step of either process.  A call of `advanceOnce` may begin at any time,
after the last one ended or died; other deliveries are written freely. -/
inductive Move (deliveryId : String) : System → Event → System → Prop where
  | begin (system : System) (expected : Option ExpectedStep) :
      Move deliveryId system .begun
        ⟨system.document, advanceOnce deliveryId expected⟩
  | call {document after : Document} {call : Call} {answer : call.Answer}
      {next : call.Answer → Program Call Call.Answer (Except Fault Outcome)}
      (h : Answered document call answer after) :
      Move deliveryId ⟨document, .ask call next⟩ (.called call answer)
        ⟨after, next answer⟩
  | revoke {document after : Document}
      {process : Program Call Call.Answer (Except Fault Outcome)}
      (revokedBy reason : String) (now : Time)
      (h : revoke document deliveryId revokedBy reason now = .ok after) :
      Move deliveryId ⟨document, process⟩ .revoked ⟨after, process⟩
  | elsewhere {document after : Document}
      {process : Program Call Call.Answer (Except Fault Outcome)}
      (h : after.deliveries.get? deliveryId = document.deliveries.get? deliveryId) :
      Move deliveryId ⟨document, process⟩ .elsewhere ⟨after, process⟩

/-- The revocation the stored record carries. -/
def storedRevocation (deliveryId : String) (document : Document) : Option Revocation :=
  (document.deliveries.get? deliveryId).bind Record.revocation

/-- What an event is to the stored revocation and its working copy: a revoke
marks, the machine's reads and saves are of the record, and a receipt derived
or a call of the transport, for an effect or a read, is work. -/
def Event.act : Event → WorkingCopy.Act
  | begun | elsewhere => .idles
  | revoked => .marks
  | called (.load _) (.ok _) => .reads
  | called (.load _) (.error _) => .idles
  | called (.save _) (.ok _) => .writes
  | called (.save _) (.error _) => .idles
  | called .clock _ => .idles
  | called .tokenHex _ => .works
  | called (.transport _) _ => .works

/-- The runs of both processes, with the stored revocation before and after
every step. -/
inductive Run (deliveryId : String) (start : System) :
    List (Moment Revocation) → System → Prop where
  | start : Run deliveryId start [] start
  | step {trace : List (Moment Revocation)} {system next : System}
      {event : Event} (hrun : Run deliveryId start trace system)
      (hmove : Move deliveryId system event next) :
      Run deliveryId start (trace ++ [{
        before := storedRevocation deliveryId system.document
        act := event.act
        after := storedRevocation deliveryId next.document }]) next

/-- No call of `advanceOnce` is under way. -/
def System.Idle (system : System) : Prop :=
  ∃ result, system.process = .done result

variable {document : Document} {record : Record}

omit [FramedDigest] in
theorem storedRevocation_put
    {h : validateAuthorization record = .ok ()} (hid : record.deliveryId = deliveryId) :
    storedRevocation deliveryId (document.put record h) =
      record.revocation := by
  simp [storedRevocation, Document.put, hid]

variable {revokedBy reason : String} {now : Time}

omit [JsonDigest] [FramedDigest] in
/-- A revocation keeps the first one. -/
theorem revokedRecord_revocation {after : Record}
    (h : revokedRecord record revokedBy reason now = .ok after) :
    after.deliveryId = record.deliveryId ∧ after.revocation =
      some (record.revocation.getD ⟨now, revokedBy, reason⟩) := by
  unfold revokedRecord at h
  obtain ⟨moved, hmoved, hafter⟩ := (Checked.bind_eq_ok ..).mp h
  rw [← (Checked.pure_eq_ok ..).mp hafter]
  unfold moveRevoked at hmoved
  split at hmoved
  · obtain ⟨hrevocation, hid⟩ := keeps_moved hmoved
    exact ⟨hid, hrevocation⟩
  · rw [← (Checked.pure_eq_ok ..).mp hmoved]
    exact ⟨rfl, rfl⟩

variable {after : Document}

omit [FramedDigest] in
/-- A revoke that returns leaves the stored record revoked. -/
theorem storedRevocation_revoke (h : revoke document deliveryId revokedBy reason now = .ok after) :
    ∃ revocation, storedRevocation deliveryId after = some revocation := by
  unfold revoke at h
  split at h
  · cases h
  · rename_i record hrecord
    split at h
    · cases h
    · rename_i marked hmarked
      obtain ⟨hid, hrevocation⟩ := revokedRecord_revocation hmarked
      split at h
      · cases h
      · obtain rfl := Except.ok.inj h
        refine ⟨_, (storedRevocation_put ?_).trans hrevocation⟩
        exact hid.trans (document.keyed deliveryId record hrecord)

variable {system next : System} {event : Event}

/-- One step of the two processes is one step of a mark and its working copy,
and the machine goes on keeping its discipline. -/
theorem Move.refines
    {seen : Option Revocation} (h : Move deliveryId system event next)
    (hkeeps : system.process.Keeps (discipline deliveryId)
      (fun _ _ => True) seen) : ∃ seen', WorkingCopy.Step
        ⟨storedRevocation deliveryId system.document, seen⟩ event.act
        ⟨storedRevocation deliveryId next.document, seen'⟩ ∧
      next.process.Keeps (discipline deliveryId) (fun _ _ => True) seen' := by
  cases h with
  | begin system expected =>
      exact ⟨seen, .idles _, keeps_advanceOnce expected seen⟩
  | revoke revokedBy reason now hrevoke =>
      obtain ⟨revocation, hstored⟩ := storedRevocation_revoke hrevoke
      refine ⟨seen, ?_, hkeeps⟩
      rw [hstored]
      exact .marks _ revocation
  | elsewhere hsame =>
      refine ⟨seen, ?_, hkeeps⟩
      unfold storedRevocation
      rw [hsame]
      exact .idles _
  | @call document after call answer _ hanswered =>
      obtain ⟨hallowed, hnext⟩ := hkeeps
      cases hanswered with
      | @load asked record hrecord =>
          obtain rfl : asked = deliveryId := hallowed
          refine ⟨record.revocation, ?_, hnext _⟩
          have hstored : storedRevocation asked document =
              record.revocation := by
            simp [storedRevocation, hrecord]
          rw [hstored]
          exact .reads _
      | missing hmissing => exact ⟨seen, .idles _, hnext _⟩
      | unread => exact ⟨seen, .idles _, hnext _⟩
      | @save record hvalid =>
          obtain ⟨hrevocation, hid⟩ := hallowed
          refine ⟨seen, ?_, hnext _⟩
          rw [storedRevocation_put hid, hrevocation]
          exact .writes _
      | unsaved => exact ⟨seen, .idles _, hnext _⟩
      | clock now => exact ⟨seen, .idles _, hnext _⟩
      | tokenHex token => exact ⟨seen, .works _ hallowed, hnext _⟩
      | transport verb answer => exact ⟨seen, .works _ hallowed, hnext _⟩

variable {start : System} {trace : List (Moment Revocation)}

/-- Every run of the two processes is a run of a mark and its working copy. -/
theorem Run.refines
    (hidle : start.Idle) (h : Run deliveryId start trace system) : ∃ seen, WorkingCopy.Run
        ⟨storedRevocation deliveryId start.document,
          storedRevocation deliveryId start.document⟩ trace
        ⟨storedRevocation deliveryId system.document, seen⟩ ∧
      system.process.Keeps (discipline deliveryId) (fun _ _ => True) seen := by
  induction h with
  | start =>
      obtain ⟨result, hdone⟩ := hidle
      refine ⟨_, .start, ?_⟩
      rw [hdone]
      trivial
  | step _ hmove ih =>
      obtain ⟨seen, hrun, hkeeps⟩ := ih
      obtain ⟨seen', hstep, hkeeps'⟩ := hmove.refines hkeeps
      exact ⟨seen', hrun.step hstep, hkeeps'⟩

/-- A revocation is kept, and stops the machine from its next read on, in
exactly the runs where no save of the machine lands between a first revocation
and the machine's next read of the record. -/
theorem revocation_kept_iff {start system : System}
    {trace : List (Moment Revocation)} (hidle : start.Idle)
    (hrun : Run deliveryId start trace system) :
    Kept trace ↔ Heeded trace := by
  obtain ⟨seen, habstract, -⟩ := hrun.refines hidle
  exact habstract.kept_iff rfl

/-! ## Executable runs -/

/-- What the scheduler and the outside world contribute to one step. -/
inductive Cue where
  | begin
  | store
  | time (now : Time)
  | token (text : String)
  | answer (verb : Verb) (answer : Except Failure verb.Answer)
  | revoke (revokedBy reason : String) (now : Time)

/-- The answer of the store to a question. -/
def storeAnswer (document : Document) : (call : Call) → Option (call.Answer × Document)
  | .load deliveryId =>
      match h : document.deliveries.get? deliveryId with
      | some record => some (Except.ok
          ⟨record, document.keyed deliveryId record h⟩, document)
      | none => some (Except.error .missingRecord, document)
  | .save record =>
      match h : validateAuthorization record with
      | .ok () => some (Except.ok (), document.put record h)
      | .error _ => some (Except.error .store, document)
  | .clock | .tokenHex | .transport _ => none

/-- The answer a cue gives to a question, if it is one to that question. -/
def cueAnswer (document : Document) : Cue → (call : Call) → Option (call.Answer × Document)
  | .store, call => storeAnswer document call
  | .time now, .clock => some (now, document)
  | .token text, .tokenHex => some (text, document)
  | .answer verb answer, .transport asked =>
      if h : verb = asked then some (h ▸ answer, document) else none
  | _, _ => none

/-- One step on a cue. -/
def follow (deliveryId : String) (system : System) (cue : Cue) : Option (Event × System) :=
  match cue, system.process with
  | .begin, _ =>
      some (.begun, ⟨system.document, advanceOnce deliveryId none⟩)
  | .revoke revokedBy reason now, process =>
      match PrDelivery.revoke system.document deliveryId revokedBy reason
          now with
      | .ok after => some (.revoked, ⟨after, process⟩)
      | .error _ => none
  | cue, .ask call next =>
      (cueAnswer system.document cue call).map fun answered =>
        (.called call answered.1, ⟨answered.2, next answered.1⟩)
  | _, .done _ => none

/-- All the cues in turn, with the moments they make. -/
def followAll (deliveryId : String) : System → List Cue → Option (List (Moment Revocation) × System)
  | system, [] => some ([], system)
  | system, cue :: cues => do
      let (event, next) ← follow deliveryId system cue
      let (trace, final) ← followAll deliveryId next cues
      pure ({
        before := storedRevocation deliveryId system.document
        act := event.act
        after := storedRevocation deliveryId next.document } :: trace, final)

variable {call : Call}

omit [FramedDigest] in
theorem storeAnswer_answered
    {answer : call.Answer} (h : storeAnswer document call = some (answer, after)) :
    Answered document call answer after := by
  cases call with
  | load asked =>
      simp only [storeAnswer] at h
      split at h
      · rename_i record hrecord
        cases h
        exact .load hrecord
      · rename_i hmissing
        cases h
        exact .missing hmissing
  | save record =>
      simp only [storeAnswer] at h
      split at h
      · rename_i hvalid
        cases h
        exact .save hvalid
      · cases h
        exact .unsaved record
  | _ => cases h

variable {cue : Cue}

omit [FramedDigest] in
theorem cueAnswer_answered {answer : call.Answer}
    (h : cueAnswer document cue call = some (answer, after)) :
    Answered document call answer after := by
  unfold cueAnswer at h
  split at h
  · exact storeAnswer_answered h
  · cases h
    exact .clock _
  · cases h
    exact .tokenHex _
  · split at h
    · rename_i hverb
      subst hverb
      cases h
      exact .transport _ _
    · cases h
  · cases h

theorem follow_move (h : follow deliveryId system cue = some (event, next)) :
    Move deliveryId system event next := by
  obtain ⟨document, process⟩ := system
  unfold follow at h
  split at h
  · cases h
    exact .begin _ none
  · split at h
    · rename_i hrevoke
      cases h
      exact .revoke _ _ _ hrevoke
    · cases h
  · rename_i call continue_ _ _ hprocess
    obtain ⟨answered, hanswered, hnext⟩ := Option.map_eq_some_iff.mp h
    cases hnext
    obtain rfl : process = .ask call continue_ := hprocess
    exact .call (cueAnswer_answered hanswered)
  · cases h

variable {final : System}

/-- What the cues make of a system is a run. -/
theorem followAll_run {cues : List Cue}
    {before : List (Moment Revocation)} (hrun : Run deliveryId start before system)
    (h : followAll deliveryId system cues = some (trace, final)) :
    Run deliveryId start (before ++ trace) final := by
  induction cues generalizing system before trace with
  | nil =>
      cases h
      simpa using hrun
  | cons cue cues ih =>
      simp only [followAll, Option.bind_eq_bind, Option.bind_eq_some_iff] at h
      obtain ⟨⟨event, next⟩, hfollow, ⟨later, last⟩, hlater, hpure⟩ := h
      cases hpure
      have hnext := ih (hrun.step (follow_move hfollow)) hlater
      rwa [List.append_assoc] at hnext

/-! ## A revocation that is lost -/

def sampleAuthority : Authority where
  deliveryId := "prd-1"
  revision := 1
  kind := .pullRequest
  repository := {
    realpath := "/work/project"
    gitDirRealpath := "/work/project/.git"
    owner := "octo"
    repo := "project"
    repositoryUrl := "https://github.com/octo/project" }
  remote := {
    name := "origin"
    urlExact := "https://github.com/octo/project"
    urlFetch := "https://github.com/octo/project"
    urlPush := "https://github.com/octo/project" }
  source := ⟨"topic", "refs/heads/topic"⟩
  targetBase := ⟨"main", "refs/heads/main"⟩
  originalBaseline :=
    ⟨"refs/heads/main", "6dcd4ce23d88e2ee9568ba546c007c63d9131c1b"⟩
  candidate := {
    entries := [⟨"src/new.py", .added, "100644", "ce013625030ba8dba906f756967f9e9ca394464a"⟩]
    identityDigest :=
      "fff501f11b271a20c948f55de30bd19675a132b382379f59cc145b122697a789" }
  evidence := []
  allowedActions := steps
  committer := ⟨"Octo", "octo@example.com"⟩
  argv := ["make", "test"]
  prText := ⟨"", "", ""⟩
  expiresAt := 86400
  authorityDigest :=
    "0a5f0e2c9e1d4b7f8a6c3d2e1f0b9a8c7d6e5f4a3b2c1d0e9f8a7b6c5d4e3f2a"

def sampleRecord : Record := newAuthorization sampleAuthority 10

omit [FramedDigest] in
theorem sampleRecord_valid : validateAuthorization sampleRecord = .ok () := by
  rfl

/-- The store with the one record as it was authorized. -/
def sampleStart : System where
  document := Document.empty.put sampleRecord sampleRecord_valid
  process := .done (.ok .noStep)

def sampleBaseline : Oid := sampleAuthority.originalBaseline.commitSha

/-- The base is current, so the step needs no receipt; the revoke lands between
the last live check and the save that records the new phase. -/
def sampleCues : List Cue := [.begin, .store, .time 20, .answer .toplevel (.ok "/work/project"),
  .answer .gitDir (.ok "/work/project/.git"),
  .answer .remoteUrl (.ok (some "https://github.com/octo/project")),
  .answer .remoteFetchUrl (.ok (some "https://github.com/octo/project")),
  .answer .remotePushUrl (.ok (some "https://github.com/octo/project")),
  .answer .symbolicRefHead (.ok (some "refs/heads/topic")),
  .answer .headOid (.ok (some sampleBaseline)),
  .answer .statusPorcelain (.ok ["A  src/new.py"]),
  .answer (.diffIndexRaw sampleBaseline)
    (.ok ⟨.ok sampleAuthority.candidate.entries, .ok ["src/new.py"]⟩),
  .answer (.lsRemote "refs/heads/main") (.ok (some sampleBaseline)),
  .revoke "operator" "stop" 30,
  .time 31, .time 32, .store]

def sampleRun : Option (List (Moment Revocation) × System) :=
  followAll "prd-1" sampleStart sampleCues

omit [FramedDigest] in
theorem sampleStart_idle : sampleStart.Idle := ⟨_, rfl⟩

theorem sampleRun_run
    (h : sampleRun = some (trace, final)) : Run "prd-1" sampleStart trace final :=
  followAll_run .start h

end Model

theorem sampleRun_ends :
    letI : JsonDigest := ⟨fun _ => ""⟩
    letI : FramedDigest := ⟨fun _ => ""⟩
    sampleRun.map (fun run => (run.1[13]?.map Moment.act,
      run.1.getLast?.map Moment.after)) = some (some .marks, some none) := by
  decide +kernel

/-- The revoke of the sample run returns, and its last save takes it away. -/
theorem sampleRun_lost :
    letI : JsonDigest := ⟨fun _ => ""⟩
    letI : FramedDigest := ⟨fun _ => ""⟩
    ∃ trace final, sampleRun = some (trace, final) ∧ ¬ Kept trace := by
  let : JsonDigest := ⟨fun _ => ""⟩
  let : FramedDigest := ⟨fun _ => ""⟩
  obtain ⟨⟨trace, final⟩, hsome, hfacts⟩ :=
    Option.map_eq_some_iff.mp sampleRun_ends
  obtain ⟨hmarks, hafter⟩ := Prod.mk.inj hfacts
  obtain ⟨moment, hmoment, hact⟩ := Option.map_eq_some_iff.mp hmarks
  obtain ⟨last, hlast, hnone⟩ := Option.map_eq_some_iff.mp hafter
  exact ⟨trace, final, hsome, WorkingCopy.not_kept_of_getLast? hlast hnone
    ⟨moment, List.mem_of_getElem? hmoment, hact⟩⟩

/-- Some run loses a revocation that has returned. -/
theorem revocation_kept_refuted :
    letI : JsonDigest := ⟨fun _ => ""⟩
    letI : FramedDigest := ⟨fun _ => ""⟩
    ¬ ∀ (deliveryId : String) (start system : System)
      (trace : List (Moment Revocation)), start.Idle →
      Run deliveryId start trace system → Kept trace := by
  let : JsonDigest := ⟨fun _ => ""⟩
  let : FramedDigest := ⟨fun _ => ""⟩
  intro hkept
  obtain ⟨trace, final, hsome, hlost⟩ := sampleRun_lost
  exact hlost (hkept _ _ _ trace sampleStart_idle (sampleRun_run hsome))

/-- In that run the machine saves a copy it read before the revoke. -/
theorem revocation_kept_iff_sample :
    letI : JsonDigest := ⟨fun _ => ""⟩
    letI : FramedDigest := ⟨fun _ => ""⟩
    ∃ (trace : List (Moment Revocation)) (final : System),
      sampleRun = some (trace, final) ∧ ¬ Heeded trace := by
  let : JsonDigest := ⟨fun _ => ""⟩
  let : FramedDigest := ⟨fun _ => ""⟩
  obtain ⟨trace, final, hsome, hlost⟩ := sampleRun_lost
  refine ⟨trace, final, hsome, fun hheeded => hlost ?_⟩
  exact (revocation_kept_iff sampleStart_idle (sampleRun_run hsome)).mpr hheeded

end DodgingInfinity.PrDelivery
