import DodgingInfinity.Retention.Anchors

/-!
# Both passes keep the dates

Every document that a pass saves goes on from the one it loaded, and a sweep
reduces the payload of a Mission only on the grounds of its own clock or of the
phase it found the record in.
-/

namespace DodgingInfinity.Retention

open MissionCore Procedure

section

variable [SnapshotDigest]

/-! ## What a question reduces -/

/-- The question reduces a payload of the Mission: a conversation it is named
in, a request it came from, or the texts of its run, as the pass has read
them. -/
def Memory.Reduces (memory : Memory) : Call → String → Prop
  | .reclaimConversations conversationIds _ _ _, missionId =>
      ∃ turns requests, memory.turns = some turns ∧ memory.requests = some requests ∧
        ∃ conversationId ∈ conversationIds,
          some missionId ∈ conversationMissions turns requests conversationId
  | .reclaimRequests refs _ _, missionId =>
      ∃ requests, memory.requests = some requests ∧
        ∃ ref ∈ refs, (requests.get? ref).bind Request.missionId = some missionId
  | .reclaimRunDiagnostics missionIds _ _, missionId => missionId ∈ missionIds
  | _, _ => False

variable {requests : Requests}

omit [SnapshotDigest] in
/-- The requests of a Mission name no other. -/
theorem missionId_of_requestsFor {missionId ref : String}
    (h : ref ∈ requestsFor requests missionId) :
    (requests.get? ref).bind Request.missionId = some missionId := by
  simp only [requestsFor, mem_sortedBy, List.mem_map, List.mem_filter, decide_eq_true_eq] at h
  obtain ⟨entry, ⟨hmem, hlinked⟩, rfl⟩ := h
  have hheld : requests.get? entry.1 = some entry.2 :=
    (Dict.mem_entries_iff _ _ _).mp hmem
  rw [hheld]
  exact hlinked

/-- Why a sweep may reduce the payload of a Mission with this record: its own
clock, or the phase that it found the record in. -/
def Grounds (call : PassCall) (found : Option RetentionRecord) (record : RetentionRecord) : Prop :=
  call.reclaims record ∨ (∃ held, found = some held ∧ held.phase.byClock = true) ∨
  (record.phase.byOwner = true ∧ ∃ held, found = some held ∧ held.phase.byOwner = true)

/-- What is durable of the Mission's record gives the grounds. -/
def Memory.Grounded (memory : Memory) (call : PassCall) (missionId : String) : Prop :=
  ∃ loaded stored record, memory.loaded = some loaded ∧ memory.stored = some stored ∧
    stored.get? (retentionKey .missionCore missionId) = some record ∧
    Grounds call (loaded.get? (retentionKey .missionCore missionId)) record

/-- A pass saves no document but one that goes on from the document it loaded,
and a sweep reduces no payload without grounds. -/
def dating (call : PassCall) : Protocol Call Call.Answer where
  State := Memory
  allows memory question :=
    (∀ records, question = .saveRetention records →
      ∃ loaded, memory.loaded = some loaded ∧ Onward call loaded records) ∧
    (call.deleting = none → ∀ missionId, memory.Reduces question missionId →
      memory.Grounded call missionId)
  hears := Memory.hear

/-- What is remembered of the retention document is true of the world, which
goes on from what the pass found. -/
structure Memory.Dates (call : PassCall) (start : RetentionDocument)
    (memory : Memory) (world : World) : Prop where
  stored : ∀ records, memory.stored = some records → world.retention = records
  unread : memory.loaded = none → world.retention = start
  loaded : ∀ records, memory.loaded = some records → records = start
  onward : Onward call start world.retention

variable {call : PassCall}

variable {start : RetentionDocument} {next : World}

variable {memory : Memory} {world : World}

omit [SnapshotDigest] in
theorem Memory.Dates.kept {heard : Memory} (h : memory.Dates call start world)
    (hkept : next.retention = world.retention)
    (hstored : heard.stored = memory.stored)
    (hloaded : heard.loaded = memory.loaded) : heard.Dates call start next :=
  ⟨fun records hread => hkept.trans (h.stored records (hstored ▸ hread)),
    fun hunread => hkept.trans (h.unread (hloaded ▸ hunread)),
    fun records hread => h.loaded records (hloaded ▸ hread), hkept ▸ h.onward⟩

omit [SnapshotDigest] in
theorem Memory.dates_blank (call : PassCall) (world : World) :
    Memory.blank.Dates call world.retention world :=
  ⟨fun _ h => (by cases h), fun _ => rfl, fun _ h => (by cases h), Onward.refl call _⟩

theorem Memory.Dates.loads {records : LoadedRetention} (h : memory.Dates call start world)
    (hanswer : Answers world .loadRetention (.ok records) next) :
    (memory.hear .loadRetention (.ok records)).Dates call start next := by
  have hkept := retention_kept hanswer fun _ h => by cases h
  have hloaded := loaded_retention hanswer
  refine ⟨fun stored hstored => ?_, fun hunread => ?_, fun loaded hfirst => ?_, hkept ▸ h.onward⟩
  · obtain rfl := Option.some.inj hstored
    exact hkept.trans hloaded.symm
  · cases hfirst : memory.loaded <;> simp [Memory.hear, hfirst] at hunread
  · cases hbefore : memory.loaded with
    | none =>
        simp only [Memory.hear, hbefore, Option.none_or, Option.some.injEq]
          at hfirst
        rw [← hfirst, hloaded]
        exact h.unread hbefore
    | some before =>
        simp only [Memory.hear, hbefore, Option.some_or, Option.some.injEq]
          at hfirst
        rw [← hfirst]
        exact h.loaded before hbefore

theorem Memory.Dates.saves {document : RetentionDocument}
    {answer : (Call.saveRetention document).Answer} (h : memory.Dates call start world)
    (hallowed : ∃ loaded, memory.loaded = some loaded ∧ Onward call loaded document)
    (hanswer : Answers world (.saveRetention document) answer next) :
    (memory.hear (.saveRetention document) answer).Dates call start next := by
  obtain ⟨heither, hdone, hrefused⟩ := retention_saved hanswer
  obtain ⟨loaded, hloaded, honward⟩ := hallowed
  rw [h.loaded loaded hloaded] at honward
  have hread : memory.loaded ≠ none := by
    rw [hloaded]
    exact Option.some_ne_none loaded
  have hnext : Onward call start next.retention := by
    rcases heither with hnext | hnext
    · exact hnext ▸ honward
    · exact hnext ▸ h.onward
  cases answer with
  | ok reply =>
      refine ⟨fun stored hstored => ?_, fun hunread => absurd hunread hread, h.loaded, hnext⟩
      rw [← Option.some.inj hstored]
      exact hdone rfl
  | error fault =>
      by_cases hother : fault = .other
      · subst hother
        exact ⟨fun stored hstored => (by cases hstored),
          fun hunread => absurd hunread hread, h.loaded, hnext⟩
      · have hkept : memory.Dates call start next :=
          h.kept (hrefused fault rfl hother) rfl rfl
        cases fault with
        | other => exact absurd rfl hother
        | _ => exact hkept

theorem dating_faithful (call : PassCall) (start : RetentionDocument) :
    Faithful surroundings (dating call) (Memory.Dates call start) where
  drift := by
    intro memory world next h hdrift
    exact h.kept hdrift rfl rfl
  answer := by
    intro memory world question answer next h hallowed hanswer
    cases question with
    | loadRetention =>
        cases answer with
        | error fault =>
            exact h.kept (retention_kept hanswer fun _ h => by cases h) rfl rfl
        | ok records => exact h.loads hanswer
    | saveRetention document => exact h.saves (hallowed.1 document rfl) hanswer
    | loadMissions =>
        have hkept := retention_kept hanswer fun _ h => by cases h
        cases answer <;> exact h.kept hkept rfl rfl
    | loadJournal =>
        have hkept := retention_kept hanswer fun _ h => by cases h
        cases answer <;> exact h.kept hkept rfl rfl
    | loadRequests =>
        have hkept := retention_kept hanswer fun _ h => by cases h
        cases answer <;> exact h.kept hkept rfl rfl
    | _ => exact h.kept (retention_kept hanswer fun _ h => by cases h) rfl rfl

/-! ## The sweep -/

/-- What the durable document and the working one agree on. -/
def outline (record : RetentionRecord) : String × Nat × Option Nat × Bool :=
  (record.recordId, record.firstEligibleObservedAt, record.terminalAt, record.phase.byOwner)

def Parallel (first second : RetentionDocument) : Prop :=
  ∀ key, (first.get? key).map outline = (second.get? key).map outline

omit [SnapshotDigest] in
theorem Parallel.refl (records : RetentionDocument) : Parallel records records :=
  fun _ => rfl

variable {record : RetentionRecord} {f : RetentionRecord → RetentionRecord}

variable {records stored : RetentionDocument} {key : String}

omit [SnapshotDigest] in
theorem Parallel.amend (h : Parallel records stored) (hheld : records.get? key = some record)
    (hsame : outline (f record) = outline record) :
    Parallel (amendRecord key f records) stored := by
  intro other
  rw [get?_amendRecord, ← h other]
  by_cases hother : other = key
  · simp [hother, hheld, hsame]
  · simp [hother]

omit [SnapshotDigest] in
/-- The durable record of a Mission, with the dates of the working one. -/
theorem Parallel.held (h : Parallel records stored) (hheld : records.get? key = some record) :
    ∃ other, stored.get? key = some other ∧ SameDates record other ∧
      other.phase.byOwner = record.phase.byOwner := by
  have hkey := h key
  rw [hheld] at hkey
  obtain ⟨other, hother, houtline⟩ := Option.map_eq_some_iff.mp hkey.symm
  simp only [outline, Prod.mk.injEq] at houtline
  obtain ⟨hid, hfirst, hterminal, howner⟩ := houtline
  exact ⟨other, hother, ⟨hid, hfirst, hterminal⟩, howner⟩

/-- The working document of a pass goes on from the one it loaded, and the
durable one has the same dates. -/
structure Dating (call : PassCall) (working : RetentionDocument)
    (memory : Memory) : Prop where
  filed : Filed working
  stored : ∃ stored, memory.stored = some stored ∧ Parallel working stored
  onward : ∃ loaded, memory.loaded = some loaded ∧ Onward call loaded working

/-- A fault that a sweep reports leaves what it goes on from. -/
def DatingFails (call : PassCall) (raised : Raised)
    (working : RetentionDocument) (memory : Memory) : Prop :=
  raised.reported = true → Dating call working memory

/-- The record acted on, as the working document holds it. -/
structure Handling (call : PassCall) (record : RetentionRecord)
    (working : RetentionDocument) (memory : Memory) : Prop
    extends Dating call working memory where
  held : ∃ current, working.get? record.key = some current ∧ mayGo call.now current = true ∧
    current.phase.byOwner = decide (record.phase = .deleting) ∧
    current.family = .missionCore ∧ current.recordId = record.recordId

variable {working : RetentionDocument}

omit [SnapshotDigest] in
theorem Dating.saved (h : Dating call working memory) :
    Dating call working { memory with stored := some working } :=
  ⟨h.filed, ⟨working, rfl, Parallel.refl working⟩, h.onward⟩

omit [SnapshotDigest] in
theorem Handling.saved (h : Handling call record working memory) :
    Handling call record working { memory with stored := some working } :=
  ⟨h.toDating.saved, h.held⟩

omit [SnapshotDigest] in
/-- A record that may go has its grounds. -/
theorem Dating.grounded
    {missionId : String} (h : Dating call working memory) (hsweep : call.deleting = none)
    (hheld : working.get? (retentionKey .missionCore missionId) = some record)
    (hmay : mayGo call.now record = true) : memory.Grounded call missionId := by
  obtain ⟨stored, hstored, hparallel⟩ := h.stored
  obtain ⟨loaded, hloaded, honward⟩ := h.onward
  obtain ⟨durable, hdurable, hdates, howner⟩ := hparallel.held hheld
  have hstep := honward.records _ record hheld
  refine ⟨loaded, stored, durable, hloaded, hstored, hdurable, ?_⟩
  simp only [mayGo, Phase.reduced_eq, Bool.or_eq_true] at hmay
  rcases hmay with (hclock | hphase) | hdue
  · rcases hstep.byClock hclock with hreclaims | hfound
    · exact .inl (hdates.reclaims hreclaims)
    · exact .inr (.inl hfound)
  · rcases hstep.byOwner hphase with hdeletes | hfound
    · rw [PassCall.deletes, hsweep] at hdeletes
      cases hdeletes
    · exact .inr (.inr ⟨howner.trans hphase, hfound⟩)
  · exact .inl (hdates.reclaims ⟨hsweep, hdue⟩)

omit [SnapshotDigest] in
/-- A change that moves no date and leaves the owner's phases to the owner. -/
theorem Handling.changed (h : Handling call record working memory) (hsweep : call.deleting = none)
    (hidentity : KeepsIdentity f) (hdates : ∀ record, SameDates record (f record))
    (hreduced : ∀ record, (f record).phase.reduced = true)
    (howner : ∀ current, (f current).phase.byOwner = decide (record.phase = .deleting)) :
    Handling call record (amendRecord record.key f working) memory := by
  obtain ⟨⟨hfiled, ⟨stored, hstored, hparallel⟩, loaded, hloaded, honward⟩,
    current, hheld, hmay, hphase, hfamily, hid⟩ := h
  have hsame : (f current).phase.byOwner = current.phase.byOwner := by
    rw [howner, hphase]
  have hnext : Onward call loaded (amendRecord record.key f working) := by
    refine honward.amend hheld (hdates current) (fun hclock => ?_) fun h => .inl (hsame ▸ h)
    simp only [mayGo, Phase.reduced_eq, Bool.or_eq_true] at hmay
    rcases hmay with (hbefore | howned) | hdue
    · exact .inl hbefore
    · rw [← hsame] at howned
      cases hnew : (f current).phase <;> simp [hnew, Phase.byOwner, Phase.byClock] at hclock howned
    · exact .inr ⟨hsweep, hdue⟩
  refine ⟨⟨hfiled.amend hidentity, ⟨stored, hstored, hparallel.amend hheld ?_⟩,
    loaded, hloaded, hnext⟩, f current, ?_,
    mayGo_of_reduced (hreduced current), howner current, ?_, ?_⟩
  · simp only [outline, (hdates current).recordId,
      (hdates current).firstEligibleObservedAt, (hdates current).terminalAt, hsame]
  · simp [get?_amendRecord, hheld]
  · rw [hidentity.family, hfamily]
  · rw [hidentity.recordId, hid]

omit [SnapshotDigest] in
theorem Handling.grounded
    (h : Handling call record working memory) (hsweep : call.deleting = none) :
    memory.Grounded call record.recordId := by
  obtain ⟨current, hheld, hmay, -, hfamily, hid⟩ := h.held
  have hkey : record.key = retentionKey .missionCore record.recordId := by
    rw [← hid, ← hfamily]
    exact (h.filed record.key current hheld).2
  exact h.toDating.grounded hsweep (hkey ▸ hheld) hmay

variable {missions : Document}

omit [SnapshotDigest] in
/-- A Mission that is safe has its grounds. -/
theorem Dating.grounded_of_safe {missionId : String}
    (h : Dating call working memory) (hsweep : call.deleting = none)
    (hsafe : safe working missions (some missionId) call.now = true) :
    memory.Grounded call missionId := by
  simp only [safe] at hsafe
  split at hsafe
  · cases hsafe
  · obtain ⟨-, hany⟩ := Bool.and_eq_true_iff.mp hsafe
    obtain ⟨record, hheld, hmay⟩ := (Option.any_eq_true ..).mp hany
    exact h.grounded hsweep hheld hmay

/-- The question saves nothing and reduces nothing. -/
def Call.Harmless (question : Call) : Prop :=
  (∀ records, question ≠ .saveRetention records) ∧
    ∀ (memory : Memory) missionId, ¬ memory.Reduces question missionId

variable {question : Call}

theorem Call.Harmless.allowed (h : question.Harmless)
    (memory : Memory) : (dating call).allows memory question :=
  ⟨fun records hsave => absurd hsave (h.1 records),
    fun _ missionId hreduces => absurd hreduces (h.2 memory missionId)⟩

theorem harmless_readDelivery : Call.readDelivery.Harmless :=
  ⟨fun _ h => (by cases h), fun _ _ h => h⟩

theorem harmless_loadRetention : Call.loadRetention.Harmless :=
  ⟨fun _ h => (by cases h), fun _ _ h => h⟩

theorem harmless_loadMissions : Call.loadMissions.Harmless :=
  ⟨fun _ h => (by cases h), fun _ _ h => h⟩

theorem harmless_loadJournal : Call.loadJournal.Harmless :=
  ⟨fun _ h => (by cases h), fun _ _ h => h⟩

theorem harmless_loadRequests : Call.loadRequests.Harmless :=
  ⟨fun _ h => (by cases h), fun _ _ h => h⟩

theorem harmless_hold (missionId : String) : (Call.hold missionId).Harmless :=
  ⟨fun _ h => (by cases h), fun _ _ h => h⟩

variable {p : RetentionDocument → Memory → Prop}

/-- A question that is allowed and leaves what matters alone. -/
theorem keeps_consult_dating (question : Call) (hallowed : ∀ working memory, p working memory →
      (dating call).allows memory question) (hsteady : ∀ working memory answer, p working memory →
      p working (memory.hear question answer)) (hdating : ∀ working memory, p working memory →
      Dating call working memory) :
    Keeps (dating call) p (consult question) (fun _ => p) (DatingFails call) :=
  keeps_consult question hallowed
    (fun working memory reply h => hsteady working memory (.ok reply) h)
    fun working memory fault h _ =>
      hdating working _ (hsteady working memory (.error fault) h)

/-- A save of the working document leaves it as it is. -/
theorem keeps_save_dating
    (hdating : ∀ working memory, p working memory → Dating call working memory)
    (hsaved : ∀ working memory, p working memory →
      p working { memory with stored := some working }) :
    Keeps (dating call) p save (fun _ => p) (DatingFails call) := by
  refine keeps_save (fun working memory h => ⟨fun records hsave => ?_,
    fun _ _ h => absurd h id⟩) hsaved fun working memory fault h hreported => ?_
  · cases hsave
    exact (hdating working memory h).onward
  · cases fault with
    | other => cases hreported
    | _ => exact hdating working memory h

/-- The record acted on, with the stores that name its payload read. -/
structure Naming (call : PassCall) (record : RetentionRecord) (turns : Turns)
    (requests : Requests) (working : RetentionDocument) (memory : Memory) : Prop
    extends Handling call record working memory, Reading turns requests memory

/-- The dates of a captured record are the ones it had. -/
theorem keeps_captureObserved_dating (record : RetentionRecord)
    (mission : Mission) (missions : Document) (turns : Turns)
    (requests : Requests) (hsweep : call.deleting = none) :
    Keeps (dating call) (Naming call record turns requests)
      (captureObserved record mission missions call.now)
      (fun _ => Naming call record turns requests) (DatingFails call) := by
  unfold captureObserved
  refine keeps_ite _ (fun hphase => ?_) fun _ => keeps_pure () fun _ _ h => h
  refine Keeps.bind (keeps_consult_dating .readDelivery
    (fun _ memory _ => harmless_readDelivery.allowed memory)
    (fun working memory answer h => ?_) fun _ _ h => h.toDating)
    fun reading => ?_
  · cases answer <;> exact h
  · refine Keeps.bind (keeps_change _ fun working memory h => ?_) fun _ =>
      keeps_save_dating (fun _ _ h => h.toDating)
        fun _ _ h => ⟨h.toHandling.saved, ⟨h.turnsRead, h.requestsRead⟩⟩
    refine ⟨h.toHandling.changed hsweep (keepsIdentity_captured _ _)
      (fun _ => ⟨rfl, rfl, rfl⟩) (fun _ => rfl) fun _ => ?_, h.toReading⟩
    rw [hphase]
    rfl

variable {checked : Dict String SnapshotDigest.Digest}

/-- Every Mission of a released conversation has its grounds. -/
theorem Naming.grounded_conversations {turns : Turns}
    (h : Naming call record turns requests working memory)
    (hsweep : call.deleting = none) {reclaimedAt : Nat}
    {outcome : ReclaimOutcome}
    {missionId : String} (hreduces : memory.Reduces (.reclaimConversations
      (judge working missions turns requests record.recordId call.now).release
      reclaimedAt outcome checked) missionId) :
    memory.Grounded call missionId := by
  obtain ⟨read, asked, hturns, hrequests, conversationId, hreleased, hnamed⟩ :=
    hreduces
  obtain rfl := Option.some.inj (h.turnsRead.symm.trans hturns)
  obtain rfl := Option.some.inj (h.requestsRead.symm.trans hrequests)
  by_cases hown : missionId = record.recordId
  · rw [hown]
    exact h.toHandling.grounded hsweep
  · refine @Dating.grounded_of_safe _ _ _ missions _ h.toDating hsweep ?_
    by_contra hunsafe
    have hmem : some missionId ∈ unsafeMissions working missions turns requests
        record.recordId call.now conversationId := by
      simp only [unsafeMissions, List.mem_filter, decide_eq_true_eq]
      refine ⟨hnamed, fun hsame => hown (Option.some.inj hsame), ?_⟩
      simpa using hunsafe
    rw [(judge_release hreleased).2] at hmem
    cases hmem

/-- A sweep reduces the stores of a Mission that has its grounds. -/
theorem keeps_reduceStores_dating (record : RetentionRecord)
    (missions : Document) (turns : Turns) (requests : Requests)
    (records : RetentionDocument) (outcome : ReclaimOutcome) (hsweep : call.deleting = none) :
    Keeps (dating call)
      (fun working memory => working = records ∧ Naming call record turns requests working memory)
      (reduceStores
        (judge records missions turns requests record.recordId call.now)
        (requestsFor requests record.recordId) record.recordId call.now outcome)
      (fun _ => Handling call record) (DatingFails call) := by
  have hconversations : Keeps (dating call)
      (fun working memory => working = records ∧ Naming call record turns requests working memory)
      (consult (.reclaimConversations
        (judge records missions turns requests record.recordId call.now).release
        call.now outcome
        (judge records missions turns requests record.recordId
          call.now).checked))
      (fun _ => Naming call record turns requests) (DatingFails call) := by
    refine keeps_consult _ (fun working memory h => ?_) (fun working memory reply h => h.2)
      fun working memory fault h _ => h.2.toDating
    obtain ⟨rfl, hnaming⟩ := h
    exact ⟨fun _ hsave => (by cases hsave), fun _ missionId hreduces =>
      hnaming.grounded_conversations hsweep hreduces⟩
  have hrequests : Keeps (dating call) (Naming call record turns requests)
      (consult (.reclaimRequests (requestsFor requests record.recordId)
        call.now outcome))
      (fun _ => Naming call record turns requests) (DatingFails call) := by
    refine keeps_consult_dating _ (fun working memory h => ?_)
      (fun working memory answer h => ?_) fun _ _ h => h.toDating
    · refine ⟨fun _ hsave => (by cases hsave), fun _ missionId hreduces => ?_⟩
      obtain ⟨asked, hread, ref, hmem, hlinked⟩ := hreduces
      obtain rfl := Option.some.inj (h.requestsRead.symm.trans hread)
      rw [missionId_of_requestsFor hmem] at hlinked
      obtain rfl := Option.some.inj hlinked
      exact h.toHandling.grounded hsweep
    · cases answer <;> exact h
  have hruns : Keeps (dating call) (Naming call record turns requests)
      (consult (.reclaimRunDiagnostics [record.recordId] call.now outcome))
      (fun _ => Naming call record turns requests) (DatingFails call) := by
    refine keeps_consult_dating _ (fun working memory h => ?_)
      (fun working memory answer h => ?_) fun _ _ h => h.toDating
    · refine ⟨fun _ hsave => (by cases hsave), fun _ missionId hreduces => ?_⟩
      obtain rfl := List.mem_singleton.mp hreduces
      exact h.toHandling.grounded hsweep
    · cases answer <;> exact h
  exact Keeps.bind hconversations fun _ => Keeps.bind hrequests fun _ =>
    Keeps.bind hruns fun _ => keeps_pure _ fun _ _ h => h.toHandling

theorem keeps_waitForShared_dating
    (deleting : Bool) (keptFor : List String) (hdating : ∀ working memory, p working memory →
      Dating call working memory) :
    Keeps (dating call) p (waitForShared deleting keptFor) (fun _ => p) (DatingFails call) :=
  keeps_ite _ (fun _ => keeps_stop _ fun working memory h _ =>
    hdating working memory h) fun _ => keeps_pure () fun _ _ h => h

theorem keeps_reclaimEligible_dating (record : RetentionRecord)
    (mission : Mission) (missions : Document) (hsweep : call.deleting = none) :
    Keeps (dating call) (Handling call record) (reclaimEligible record mission missions call.now)
      (fun _ => Dating call) (DatingFails call) := by
  have hturns : Keeps (dating call) (Handling call record)
      (consult .loadJournal) (fun turns working memory =>
        Handling call record working memory ∧ memory.turns = some turns) (DatingFails call) :=
    keeps_consult _ (fun _ memory _ => harmless_loadJournal.allowed memory)
      (fun _ _ _ h => ⟨⟨⟨h.filed, h.stored, h.onward⟩, h.held⟩, rfl⟩)
      fun _ _ _ h _ => h.toDating
  have hrequests : ∀ turns : Turns, Keeps (dating call)
      (fun working memory => Handling call record working memory ∧ memory.turns = some turns)
      (consult .loadRequests) (fun requests working memory =>
        Naming call record turns requests.1 working memory)
      (DatingFails call) := fun turns =>
    keeps_consult _ (fun _ memory _ => harmless_loadRequests.allowed memory)
      (fun _ _ _ h => ⟨⟨⟨h.1.filed, h.1.stored, h.1.onward⟩, h.1.held⟩, ⟨h.2, rfl⟩⟩)
      fun _ _ _ h _ => h.1.toDating
  refine Keeps.bind hturns fun turns => Keeps.bind (hrequests turns)
    fun requests => Keeps.bind (keeps_captureObserved_dating record mission
      missions turns requests.1 hsweep) fun _ => ?_
  refine Keeps.bind keeps_read_self fun records => ?_
  refine Keeps.bind (keeps_waitForShared_dating _ _ fun _ _ h => h.2.toDating) fun _ => ?_
  refine Keeps.bind (keeps_reduceStores_dating record missions turns requests.1
    records _ hsweep) fun _ => ?_
  have hfinish : ∀ retainedFor : List String, Keeps (dating call) (Handling call record)
      (amend record.key (finishedRecord (record.phase = .deleting) retainedFor
        call.now))
      (fun _ => Handling call record) (DatingFails call) := by
    intro retainedFor
    refine keeps_change _ fun working memory h => h.changed hsweep
      (keepsIdentity_finished _ _ _) (fun _ => ⟨rfl, rfl, rfl⟩)
      (fun current => reduced_finished _ _ _ current) fun _ => ?_
    by_cases hdeleting : record.phase = .deleting <;>
      simp [finishedRecord, hdeleting, Phase.byOwner]
  exact Keeps.bind (hfinish _) fun _ =>
    Keeps.bind (keeps_save_dating (fun _ _ h => h.toDating)
      fun _ _ h => h.saved) fun _ => keeps_pure true fun _ _ h => h.toDating

/-- The record of one pending Mission is acted on. -/
theorem keeps_reclaimOne_dating (record : RetentionRecord)
    (missions : Document) (hsweep : call.deleting = none) :
    Keeps (dating call) (Handling call record)
      (reclaimOne record missions call.now) (fun _ => Dating call)
      (DatingFails call) := by
  refine Keeps.bind (keeps_consult_dating (.hold record.recordId)
    (fun _ memory _ => (harmless_hold _).allowed memory)
    (fun working memory answer h => ?_) fun _ _ h => h.toDating)
    fun held => keeps_ite _ (fun _ => ?_) fun _ =>
      keeps_pure false fun _ _ h => h.toDating
  · cases answer <;> exact h
  · unfold reclaimHeld
    split
    · exact keeps_pure false fun _ _ h => h.toDating
    · rename_i mission hmission
      exact keeps_ite _ (fun _ => keeps_reclaimEligible_dating record mission
        missions hsweep) fun _ => keeps_pure false fun _ _ h => h.toDating

theorem keeps_visitRecord_dating (missions : Document) (tally : Tally)
    (key : String) (hsweep : call.deleting = none) : Keeps (dating call) (Dating call)
      (visitRecord missions call.now tally key) (fun _ => Dating call)
      (fun _ _ _ => True) := by
  refine Keeps.bind keeps_read_self fun records => ?_
  cases hheld : records.get? key with
  | none => exact keeps_pure tally fun _ _ h => h.2
  | some record =>
      refine keeps_ite _ (fun hpending => ?_) fun _ =>
        keeps_pure tally fun _ _ h => h.2
      refine keeps_ite _ (fun _ => keeps_pure _ fun _ _ h => h.2) fun _ => ?_
      refine Keeps.onFault (Keeps.bind ((keeps_reclaimOne_dating record missions
        hsweep).weaken fun working memory h => ?_) fun done => keeps_pure _
          fun _ _ h => h) fun raised => ?_
      · obtain ⟨rfl, hdating⟩ := h
        obtain ⟨hkey, -⟩ := hdating.filed key record hheld
        have hlive := live_of_pending hpending.2
        refine ⟨hdating, record, by rw [hkey]; exact hheld,
          mayGo_of_pending hpending.2, ?_, hpending.1, rfl⟩
        cases hphase : record.phase <;> simp [hphase, Phase.byOwner] at hlive ⊢
      · exact keeps_ite _ (fun hreported => keeps_pure _
          fun _ _ h => h hreported) fun _ => keeps_stop raised fun _ _ _ => trivial

theorem keeps_visitAll_dating (missions : Document) (keys : List String)
    (tally : Tally) (hsweep : call.deleting = none) : Keeps (dating call) (Dating call)
      (visitAll missions call.now keys tally) (fun _ => Dating call)
      (fun _ _ _ => True) := by
  induction keys generalizing tally with
  | nil => exact keeps_pure tally fun _ _ h => h
  | cons key rest ih =>
      exact Keeps.bind (keeps_visitRecord_dating missions tally key hsweep) fun next => ih next

/-- What a sweep first observes is saved before it acts on anything. -/
theorem keeps_saveObserved_dating (records : LoadedRetention) (missions : Document) :
    Keeps (dating call) (fun working memory =>
        working = (observeAll records.1 missions call.now).records ∧
        memory.stored = some records.1 ∧ memory.loaded = some records.1)
      (saveObserved (observeAll records.1 missions call.now).observed)
      (fun _ => Dating call) (fun _ _ _ => True) := by
  obtain ⟨hfiled, hsame⟩ := filed_observeAll missions call.now records.2.filed
  have honward := onward_observeAll call records.1 missions
  refine keeps_ite _ (fun _ => ?_) fun hnone => keeps_pure () fun _ _ h => ?_
  · refine keeps_save (fun working memory h => ⟨fun _ hsave => ?_,
      fun _ _ hreduces => absurd hreduces id⟩) (fun working _ h => ?_)
      fun _ _ _ _ => trivial
    · cases hsave
      exact ⟨records.1, h.2.2, h.1 ▸ honward⟩
    · exact ⟨by rw [h.1]; exact hfiled, ⟨working, rfl, Parallel.refl working⟩,
        records.1, h.2.2, h.1 ▸ honward⟩
  · obtain ⟨rfl, hstored, hloaded⟩ := h
    refine ⟨hfiled, ⟨records.1, hstored, ?_⟩, records.1, hloaded, honward⟩
    rw [hsame (Nat.eq_zero_of_not_pos hnone)]
    exact Parallel.refl records.1

/-- The sweep keeps the dates, from the moment it starts. -/
theorem keeps_sweep_dating (hsweep : call.deleting = none) :
    Keeps (dating call) (fun _ memory => memory = .blank) (sweep call.now)
      (fun _ _ _ => True) (fun _ _ _ => True) := by
  have hrecords : Keeps (dating call) (fun _ memory => memory = .blank) (consult .loadRetention)
      (fun (records : LoadedRetention) _ memory =>
        memory.stored = some records.1 ∧ memory.loaded = some records.1)
      (fun _ _ _ => True) :=
    keeps_consult _ (fun _ memory _ => harmless_loadRetention.allowed memory)
      (fun _ _ _ h => by rw [h]; exact ⟨rfl, rfl⟩) fun _ _ _ _ => trivial
  have hmissions : ∀ records : LoadedRetention, Keeps (dating call)
      (fun _ memory => memory.stored = some records.1 ∧ memory.loaded = some records.1)
      (consult .loadMissions)
      (fun _ _ memory => memory.stored = some records.1 ∧ memory.loaded = some records.1)
      (fun _ _ _ => True) := fun records =>
    keeps_consult _ (fun _ memory _ => harmless_loadMissions.allowed memory)
      (fun _ _ _ h => h) fun _ _ _ _ => trivial
  refine Keeps.bind hrecords fun records => Keeps.bind (hmissions records) fun missions => ?_
  have hchange : Keeps (dating call)
      (fun _ memory => memory.stored = some records.1 ∧ memory.loaded = some records.1)
      (change fun _ => (observeAll records.1 missions.1 call.now).records : Pass Unit)
      (fun _ working memory =>
        working = (observeAll records.1 missions.1 call.now).records ∧
        memory.stored = some records.1 ∧ memory.loaded = some records.1)
      (fun _ _ _ => True) := keeps_change _ fun _ _ h => ⟨rfl, h⟩
  exact Keeps.bind hchange fun _ =>
    Keeps.bind (keeps_saveObserved_dating records missions.1) fun _ =>
    Keeps.bind (keeps_visitAll_dating missions.1 _ _ hsweep) fun _ =>
    keeps_pure _ fun _ _ _ => trivial

/-! ## The owner's deletion -/

variable {missionId : String}

/-- The working document of a deletion, with the record of its Mission. -/
structure Undoing (call : PassCall) (missionId : String)
    (loaded working : RetentionDocument) (memory : Memory) : Prop where
  loadedRead : memory.loaded = some loaded
  onward : Onward call loaded working
  held : ∃ current, working.get? (retentionKey .missionCore missionId) =
    some current ∧ current.recordId = missionId

variable {loaded : RetentionDocument}

omit [SnapshotDigest] in
/-- The record of the Mission deleted goes to a phase of the owner. -/
theorem Undoing.changed
    (h : Undoing call missionId loaded working memory) (hdeleting : call.deleting = some missionId)
    (hdates : ∀ record, SameDates record (f record))
    (hphase : ∀ record, (f record).phase.byClock = false) : Undoing call missionId loaded
      (amendRecord (retentionKey .missionCore missionId) f working) memory := by
  obtain ⟨current, hheld, hid⟩ := h.held
  refine ⟨h.loadedRead, h.onward.amend hheld (hdates current) (fun hclock => ?_)
    fun _ => .inr ?_, f current, ?_, ?_⟩
  · rw [hphase current] at hclock
    cases hclock
  · rw [PassCall.deletes, hdeleting, hid]
  · simp [get?_amendRecord, hheld]
  · rw [(hdates current).recordId, hid]

theorem allows_deletion (hdeleting : call.deleting = some missionId)
    (hsave : ∀ records, question = .saveRetention records →
      ∃ loaded, memory.loaded = some loaded ∧ Onward call loaded records) :
    (dating call).allows memory question := by
  refine ⟨hsave, fun hsweep _ _ => ?_⟩
  rw [hdeleting] at hsweep
  cases hsweep

/-- A question of a deletion, whatever becomes of a fault. -/
theorem keeps_consult_deletion (question : Call) (hdeleting : call.deleting = some missionId)
    (hsave : ∀ records, question ≠ .saveRetention records)
    (hsteady : ∀ working memory answer, p working memory →
      p working (memory.hear question answer)) :
    Keeps (dating call) p (consult question) (fun _ => p)
      (fun _ => p) :=
  keeps_consult question (fun _ _ _ => allows_deletion hdeleting fun records h => absurd h
      (hsave records))
    (fun working memory reply h => hsteady working memory (.ok reply) h)
    fun working memory fault h => hsteady working memory (.error fault) h

theorem keeps_save_deletion
    (hdeleting : call.deleting = some missionId) (honward : ∀ working memory, p working memory →
      ∃ loaded, memory.loaded = some loaded ∧ Onward call loaded working)
    (hsaved : ∀ working memory, p working memory →
      p working { memory with stored := some working }) :
    Keeps (dating call) p save (fun _ => p) (fun _ _ _ => True) :=
  keeps_save (fun working memory h => allows_deletion hdeleting fun _ hsave => by
    cases hsave
    exact honward working memory h) hsaved fun _ _ _ _ => trivial

theorem keeps_unsavedWithdrawal_dating (removed : Removed)
    (previously : Option Phase) (raised : Raised) {post : Unit → RetentionDocument →
      Memory → Prop} : Keeps (dating call) p (unsavedWithdrawal removed previously raised) post
      (fun _ _ _ => True) := by
  unfold unsavedWithdrawal
  split <;> exact keeps_stop _ fun _ _ _ => trivial

/-- A deletion that the journal refuses restores the record it found. -/
theorem keeps_answerJournal_dating (removed : Removed) (previously : Option Phase) (raised : Raised)
    (hdeleting : call.deleting = some missionId) :
    Keeps (dating call) (Undoing call missionId loaded)
      (answerJournal (retentionKey .missionCore missionId)
        (loaded.get? (retentionKey .missionCore missionId)) removed previously
        raised)
      (fun _ => Undoing call missionId loaded) (fun _ _ _ => True) := by
  have hwithdraw : Keeps (dating call) (Undoing call missionId loaded)
      (change (withoutIntent (retentionKey .missionCore missionId)
        (loaded.get? (retentionKey .missionCore missionId))) : Pass Unit)
      (fun _ working memory => memory.loaded = some loaded ∧ Onward call loaded working)
      (fun _ _ _ => True) :=
    keeps_change _ fun _ _ h => ⟨h.loadedRead, h.onward.withdraw _⟩
  have hsave : Keeps (dating call)
      (fun working memory => memory.loaded = some loaded ∧ Onward call loaded working) save
      (fun _ working memory => memory.loaded = some loaded ∧
        Onward call loaded working) (fun _ _ _ => True) :=
    keeps_save_deletion hdeleting (fun _ _ h => ⟨loaded, h.1, h.2⟩) fun _ _ h => ⟨h.1, h.2⟩
  unfold answerJournal
  split
  · exact Keeps.bind (Keeps.bind hwithdraw fun _ => Keeps.onFault hsave
      fun raised => keeps_unsavedWithdrawal_dating _ _ raised)
      fun _ => keeps_stop _ fun _ _ _ => trivial
  · exact keeps_stop _ fun _ _ _ => trivial

variable {conversations refs : List String}

theorem keeps_deletePayload_dating {hadSummary : Bool} {now : Nat}
    (hdeleting : call.deleting = some missionId) :
    Keeps (dating call) (Undoing call missionId loaded)
      (deletePayload (retentionKey .missionCore missionId) missionId
        conversations refs checked
        (loaded.get? (retentionKey .missionCore missionId)) hadSummary now)
      (fun _ => Undoing call missionId loaded) (fun _ _ _ => True) := by
  have hstep : ∀ (question : Call), (∀ records, question ≠ .saveRetention records) →
      (∀ (memory : Memory) answer, (memory.hear question answer).loaded = memory.loaded) →
      Keeps (dating call) (Undoing call missionId loaded) (consult question)
        (fun _ => Undoing call missionId loaded)
        (fun _ => Undoing call missionId loaded) := by
    intro question hsave hloaded
    refine keeps_consult_deletion question hdeleting hsave
      fun working memory answer h => ⟨?_, h.onward, h.held⟩
    rw [hloaded]
    exact h.loadedRead
  have hstarted : ∀ {α : Type} {step : Pass α} {removed : Removed}
      {previously : Option Phase}, Keeps (dating call) (Undoing call missionId loaded) step
        (fun _ => Undoing call missionId loaded)
        (fun _ => Undoing call missionId loaded) →
      Keeps (dating call) (Undoing call missionId loaded) (started step removed previously)
        (fun _ => Undoing call missionId loaded) (fun _ _ _ => True) :=
    fun hkeeps => hkeeps.onFault fun _ => keeps_stop _ fun _ _ _ => trivial
  refine Keeps.bind (Keeps.onFault (hstep _ (fun _ h => (by cases h)) ?_)
    fun raised => keeps_answerJournal_dating _ _ raised hdeleting) fun turns =>
    Keeps.bind (hstarted (hstep _ (fun _ h => (by cases h)) ?_))
      fun requests => Keeps.bind (hstarted (hstep _ (fun _ h => (by cases h)) ?_))
        fun runs => keeps_pure _ fun _ _ h => h
  · intro memory answer
    cases answer <;> rfl
  · intro memory answer
    cases answer <;> rfl
  · intro memory answer
    cases answer <;> rfl

theorem keeps_deleteHeld_dating {basis : Basis} (hdeleting : call.deleting = some missionId) :
    Keeps (dating call)
      (fun working memory => working = loaded ∧ memory.loaded = some loaded ∧ Filed loaded)
      (deleteHeld missionId basis conversations refs checked call.now)
      (fun _ _ _ => True) (fun _ _ _ => True) := by
  have hobserve : Keeps (dating call)
      (fun working memory => working = loaded ∧ memory.loaded = some loaded ∧ Filed loaded)
      (observeForDeletion missionId basis call.now)
      (fun _ => Undoing call missionId loaded) (fun _ _ _ => True) := by
    refine Keeps.bind keeps_read_self fun records => ?_
    split
    · exact keeps_stop _ fun _ _ _ => trivial
    · rename_i record created next hnext
      refine Keeps.bind (keeps_change _ fun working memory h => ?_) fun _ =>
        keeps_pure _ fun _ _ h => h
      obtain ⟨rfl, rfl, hloaded, hfiled⟩ := h
      obtain ⟨hnextFiled, -, hheld⟩ := hfiled.observe hnext
      obtain ⟨hkey, hfamily⟩ := hnextFiled _ record hheld
      exact ⟨hloaded, (Onward.refl call working).observe hnext, record, hheld,
        (retentionKey_injective hfamily).2⟩
  have hsave : Keeps (dating call) (Undoing call missionId loaded) save
      (fun _ => Undoing call missionId loaded) (fun _ _ _ => True) :=
    keeps_save_deletion hdeleting (fun _ _ h => ⟨loaded, h.loadedRead, h.onward⟩)
      fun _ _ h => ⟨h.loadedRead, h.onward, h.held⟩
  refine Keeps.bind keeps_read_self fun records => ?_
  intro working memory h
  obtain ⟨rfl, rfl, hloaded⟩ := h
  refine (Keeps.bind hobserve fun record =>
    Keeps.bind (keeps_change _ fun _ _ h => h.changed
      (f := deletingRecord call.now) hdeleting
      (fun _ => ⟨rfl, rfl, rfl⟩) fun _ => rfl) fun _ =>
    Keeps.bind hsave fun _ =>
    Keeps.bind (keeps_deletePayload_dating hdeleting) fun removed =>
    Keeps.bind (keeps_change _ fun _ _ h => h.changed (f := fun record =>
      { record with phase := .deleted, phaseAt := call.now }) hdeleting
      (fun _ => ⟨rfl, rfl, rfl⟩) fun _ => rfl) fun _ =>
    Keeps.bind hsave fun _ => keeps_pure _ fun _ _ _ => trivial) working memory ⟨rfl, hloaded⟩

theorem keeps_refuseIf_dating (bad : Prop) {_ : Decidable bad} (refusal : Refusal) :
    Keeps (dating call) p (refuseIf bad refusal) (fun _ => p)
      (fun _ _ _ => True) :=
  keeps_ite _ (fun _ => keeps_stop _ fun _ _ _ => trivial) fun _ =>
    keeps_pure () fun _ _ h => h

theorem keeps_resolve_dating {α : Type} (value : Option α) (refusal : Refusal) :
    Keeps (dating call) p (resolve value refusal) (fun _ => p)
      (fun _ _ _ => True) := by
  cases value with
  | none => exact keeps_stop _ fun _ _ _ => trivial
  | some held => exact keeps_pure held fun _ _ h => h

theorem keeps_requireEligible_dating (mission : Mission) (stateRecord : Option StateRecord) :
    Keeps (dating call) p (requireEligible mission stateRecord) (fun _ => p)
      (fun _ _ _ => True) := by
  unfold requireEligible
  split
  · exact keeps_pure _ fun _ _ h => h
  · exact keeps_stop _ fun _ _ _ => trivial

/-- The owner's deletion keeps the dates, from the moment it starts. -/
theorem keeps_delete_dating (storeIdentity displayedState : String)
    (requestedStore : Option String) (hdeleting : call.deleting = some missionId) :
    Keeps (dating call) (fun _ memory => memory = .blank)
      (delete storeIdentity missionId displayedState requestedStore call.now)
      (fun _ _ _ => True) (fun _ _ _ => True) := by
  have hrecords : Keeps (dating call) (fun _ memory => memory = .blank) (consult .loadRetention)
      (fun (records : LoadedRetention) _ memory =>
        memory.loaded = some records.1)
      (fun _ _ _ => True) :=
    keeps_consult _ (fun _ memory _ => harmless_loadRetention.allowed memory)
      (fun _ _ _ h => by rw [h]; rfl) fun _ _ _ _ => trivial
  refine Keeps.bind (keeps_refuseIf_dating _ _) fun _ =>
    Keeps.bind hrecords fun records => ?_
  have hchange : Keeps (dating call) (fun _ memory => memory.loaded = some records.1)
      (change fun _ => records.1 : Pass Unit)
      (fun _ working memory => working = records.1 ∧
        memory.loaded = some records.1 ∧ Filed records.1)
      (fun _ _ _ => True) :=
    keeps_change _ fun _ _ h => ⟨rfl, h, records.2.filed⟩
  have hload : ∀ question : Call, question.Harmless →
      (∀ (memory : Memory) answer, (memory.hear question answer).loaded = memory.loaded) →
      Keeps (dating call) (fun working memory => working = records.1 ∧
          memory.loaded = some records.1 ∧ Filed records.1)
        (consult question)
        (fun _ working memory => working = records.1 ∧
          memory.loaded = some records.1 ∧ Filed records.1)
        (fun _ _ _ => True) := by
    intro question hharmless hloaded
    refine keeps_consult question (fun _ memory _ => hharmless.allowed memory)
      (fun working memory reply h => ⟨h.1, ?_, h.2.2⟩) fun _ _ _ _ => trivial
    exact (hloaded memory (.ok reply)).trans h.2.1
  refine Keeps.bind hchange fun _ =>
    Keeps.bind (hload _ harmless_loadMissions ?_) fun missions =>
    Keeps.bind (keeps_resolve_dating _ _) fun mission =>
    Keeps.bind (hload _ harmless_loadJournal ?_) fun turns =>
    Keeps.bind (hload _ harmless_loadRequests ?_) fun requests =>
    Keeps.bind (keeps_refuseIf_dating _ _) fun _ =>
    Keeps.bind (keeps_refuseIf_dating _ _) fun _ =>
    Keeps.bind (keeps_refuseIf_dating _ _) fun _ =>
    Keeps.bind (keeps_requireEligible_dating _ _) fun basis =>
    Keeps.bind (keeps_refuseIf_dating _ _) fun _ =>
    Keeps.bind (keeps_refuseIf_dating _ _) fun _ =>
    Keeps.bind (hload _ (harmless_hold missionId) ?_) fun held =>
    Keeps.bind (keeps_refuseIf_dating _ _) fun _ =>
    keeps_deleteHeld_dating hdeleting
  · intro memory answer
    cases answer <;> rfl
  · intro memory answer
    cases answer <;> rfl
  · intro memory answer
    cases answer <;> rfl
  · intro memory answer
    cases answer <;> rfl

theorem keeps_program_dating (call : PassCall) :
    call.program.Keeps (dating call) (fun _ _ => True) .blank := by
  have hkeeps : Keeps (dating call) (fun _ memory => memory = .blank) call.pass
      (fun _ _ _ => True) (fun _ _ _ => True) := by
    cases call with
    | sweep now =>
        have hsweep : Keeps (dating (.sweep now))
            (fun _ memory => memory = .blank) (Retention.sweep now)
            (fun _ _ _ => True) (fun _ _ _ => True) := keeps_sweep_dating rfl
        exact Keeps.bind hsweep fun _ => keeps_pure _ fun _ _ _ => trivial
    | delete storeIdentity missionId displayedState requestedStore now =>
        have hdelete : Keeps (dating (.delete storeIdentity missionId displayedState
              requestedStore now))
            (fun _ memory => memory = .blank)
            (Retention.delete storeIdentity missionId displayedState
              requestedStore now)
            (fun _ _ _ => True) (fun _ _ _ => True) :=
          keeps_delete_dating storeIdentity displayedState requestedStore rfl
        exact Keeps.bind hdelete fun _ => keeps_pure _ fun _ _ _ => trivial
  exact (hkeeps defaultDocument .blank rfl).mono fun _ _ _ => trivial

end

end DodgingInfinity.Retention
