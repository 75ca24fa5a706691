import DodgingInfinity.Retention.Sharing

/-!
# Both passes keep the group rule

The sweep asks the journal to reduce a conversation only when every Mission it
produced may lose its words, and the owner's deletion only when the Mission
deleted is the only one.
-/

namespace DodgingInfinity.Retention

open MissionCore Procedure

/-! ## Records that may go -/

/-- The record of a Mission whose words may go: due, or already reduced. -/
def mayGo (now : Nat) (record : RetentionRecord) : Bool :=
  record.phase.reduced || isDue record now

/-- The two documents hold records that may go for the same Missions. -/
def Alike (now : Nat) (first second : RetentionDocument) : Prop :=
  ∀ key, (first.get? key).any (mayGo now) = (second.get? key).any (mayGo now)

theorem Alike.refl (now : Nat) (records : RetentionDocument) :
    Alike now records records := fun _ => rfl

theorem safe_congr {now : Nat} {first second : RetentionDocument}
    (h : Alike now first second) (missions : Document) (missionId : Option String) :
    safe first missions missionId now = safe second missions missionId now := by
  cases missionId with
  | none => rfl
  | some missionId =>
      have hmay : (first.get? (retentionKey .missionCore missionId)).any
          (fun record => record.phase.reduced || isDue record now) =
          (second.get? (retentionKey .missionCore missionId)).any
            (fun record => record.phase.reduced || isDue record now) :=
        h (retentionKey .missionCore missionId)
      simp only [safe, hmay]

variable {record : RetentionRecord}

theorem mayGo_of_pending {now : Nat}
    (h : pending record now = true) : mayGo now record = true := by
  unfold pending at h
  simp only [mayGo, Bool.or_eq_true]
  split at h
  · exact .inr h
  · rename_i hphase
    simp [hphase, Phase.reduced]
  · rename_i hphase
    simp [hphase, Phase.reduced]
  · rename_i hphase
    simp [hphase, Phase.reduced]
  · cases h

theorem live_of_pending {now : Nat}
    (h : pending record now = true) : record.phase ≠ .deleted := by
  intro hphase
  simp [pending, hphase] at h

theorem mayGo_of_reduced {now : Nat}
    (h : record.phase.reduced = true) : mayGo now record = true := by
  simp [mayGo, h]

theorem get?_amendRecord (records : RetentionDocument) (key other : String)
    (f : RetentionRecord → RetentionRecord) : (amendRecord key f records).get? other =
      if other = key then (records.get? key).map f else records.get? other := by
  unfold amendRecord
  cases h : records.get? key with
  | none =>
      by_cases hother : other = key
      · simp [hother, h]
      · simp [hother]
  | some record => simp [Dict.get?_set]

variable {records : RetentionDocument} {f : RetentionRecord → RetentionRecord}

variable {key : String}

/-- Amending a record that may go, to one that may go, changes nobody's
safety. -/
theorem Alike.amend {now : Nat} {stored : RetentionDocument} (h : Alike now records stored)
    (hheld : records.get? key = some record) (hrecord : mayGo now record = true)
    (hamended : mayGo now (f record) = true) :
    Alike now (amendRecord key f records) stored := by
  intro other
  rw [get?_amendRecord, ← h other]
  by_cases hother : other = key
  · simp [hother, hheld, hrecord, hamended]
  · simp [hother]

/-- Every record is filed under the key of its own Mission. -/
def Filed (records : RetentionDocument) : Prop :=
  ∀ key record, records.get? key = some record →
    record.key = key ∧ key = retentionKey record.family record.recordId

theorem Valid.filed (h : Valid records) :
    Filed records := fun key record hheld =>
  ⟨(h.records key record hheld).1,
    (h.records key record hheld).1.symm.trans (h.records key record hheld).2.key⟩

/-- A change of a record that keeps its identity. -/
structure KeepsIdentity (f : RetentionRecord → RetentionRecord) : Prop where
  key : ∀ record, (f record).key = record.key
  family : ∀ record, (f record).family = record.family
  recordId : ∀ record, (f record).recordId = record.recordId

theorem Filed.amend (h : Filed records)
    (hf : KeepsIdentity f) : Filed (amendRecord key f records) := by
  intro other record hheld
  rw [get?_amendRecord] at hheld
  split at hheld
  · rename_i hsame
    obtain ⟨old, hold, rfl⟩ := Option.map_eq_some_iff.mp hheld
    rw [hf.key, hf.family, hf.recordId, hsame]
    exact h key old hold
  · exact h other record hheld

variable {next : RetentionDocument} {basis : Basis} {created : Bool}

theorem Filed.observe {missionId : String} {now : Nat} (h : Filed records)
    (hobserve : observe records missionId basis now =
      .ok (record, created, next)) : Filed next ∧ (created = false → next = records) ∧
      next.get? (retentionKey .missionCore missionId) = some record := by
  unfold Retention.observe at hobserve
  cases hheld : records.get? (retentionKey .missionCore missionId) with
  | some existing =>
      simp only [hheld, Except.ok.injEq, Prod.mk.injEq] at hobserve
      obtain ⟨rfl, rfl, rfl⟩ := hobserve
      exact ⟨h, fun _ => rfl, hheld⟩
  | none =>
      simp only [hheld, Checked.bind_eq_ok, Checked.pure_eq_ok, Prod.mk.injEq] at hobserve
      obtain ⟨next, hput, rfl, rfl, rfl⟩ := hobserve
      obtain ⟨-, -, rfl⟩ := putRecord_eq_ok.mp hput
      refine ⟨fun key record hrecord => ?_, fun h => (by cases h), Dict.get?_set_self records _ _⟩
      rw [Dict.get?_set] at hrecord
      split at hrecord
      · rename_i hsame
        obtain rfl := Option.some.inj hrecord
        exact ⟨hsame.symm, hsame⟩
      · exact h key record hrecord

/-- Observing keeps every record filed, and without a new one it changes
nothing. -/
theorem filed_observeMission {missions : Document} {now : Nat}
    {seen : Observation} (missionId : String) (h : Filed seen.records) :
    Filed (observeMission missions now seen missionId).records ∧
      seen.observed ≤ (observeMission missions now seen missionId).observed ∧
      ((observeMission missions now seen missionId).observed = seen.observed →
        (observeMission missions now seen missionId).records = seen.records) := by
  unfold observeMission
  split
  · exact ⟨h, le_refl _, fun _ => rfl⟩
  · split
    · exact ⟨h, le_refl _, fun _ => rfl⟩
    · unfold observeEligible
      split
      · exact ⟨h, le_refl _, fun _ => rfl⟩
      · rename_i record created records hobserve
        obtain ⟨hfiled, hsame, -⟩ := h.observe hobserve
        refine ⟨hfiled, Nat.le_add_right _ _, fun hcount => hsame ?_⟩
        cases created with
        | false => rfl
        | true => simp at hcount

theorem filed_observeAll (missions : Document) (now : Nat) (h : Filed records) :
    Filed (observeAll records missions now).records ∧
      ((observeAll records missions now).observed = 0 →
        (observeAll records missions now).records = records) := by
  have hfold : ∀ (missionIds : List String) (seen : Observation), Filed seen.records →
      Filed (missionIds.foldl (observeMission missions now) seen).records ∧ seen.observed ≤
        (missionIds.foldl (observeMission missions now) seen).observed ∧
      ((missionIds.foldl (observeMission missions now) seen).observed = seen.observed →
        (missionIds.foldl (observeMission missions now) seen).records =
          seen.records) := by
    intro missionIds
    induction missionIds with
    | nil => exact fun seen hfiled => ⟨hfiled, le_refl _, fun _ => rfl⟩
    | cons missionId rest ih =>
        intro seen hfiled
        obtain ⟨hfirst, hle, hsame⟩ :=
          filed_observeMission missionId hfiled
        obtain ⟨hrest, hrestLe, hrestSame⟩ := ih _ hfirst
        refine ⟨hrest, hle.trans hrestLe, fun hcount => ?_⟩
        rw [List.foldl_cons] at hcount ⊢
        have hstep := le_antisymm (hcount ▸ hrestLe) hle
        rw [hrestSame (hcount.trans hstep.symm), hsame hstep]
  obtain ⟨hfiled, -, hsame⟩ := hfold (sortedBy id missions.missions.keys)
    { records := records, observed := 0, problems := [] } h
  exact ⟨hfiled, hsame⟩

/-! ## A sweep goes on from the document it loaded -/

theorem Forward.amend {loaded : RetentionDocument}
    (h : Forward loaded records) (hheld : records.get? key = some record)
    (hlive : record.phase ≠ .deleted) (hreduced : (f record).phase.reduced = true) :
    Forward loaded (amendRecord key f records) := by
  refine h.trans fun other held hother => ?_
  rw [get?_amendRecord]
  split
  · rename_i hsame
    subst hsame
    obtain rfl := Option.some.inj (hheld.symm.trans hother)
    exact ⟨f record, by rw [hheld]; rfl, fun h => absurd h hlive,
      fun _ => hreduced⟩
  · exact ⟨held, hother, fun _ => rfl, id⟩

/-- An observation adds a record or changes nothing. -/
theorem forward_observe {missionId : String} {now : Nat}
    (h : observe records missionId basis now = .ok (record, created, next)) :
    Forward records next := by
  unfold Retention.observe at h
  cases hheld : records.get? (retentionKey .missionCore missionId) with
  | some existing =>
      simp only [hheld, Except.ok.injEq, Prod.mk.injEq] at h
      obtain ⟨-, -, rfl⟩ := h
      exact Forward.refl records
  | none =>
      simp only [hheld, Checked.bind_eq_ok, Checked.pure_eq_ok, Prod.mk.injEq] at h
      obtain ⟨next, hput, -, -, rfl⟩ := h
      obtain ⟨-, -, rfl⟩ := putRecord_eq_ok.mp hput
      intro key record hrecord
      refine ⟨record, ?_, fun _ => rfl, id⟩
      rw [Dict.get?_set, if_neg fun hsame => ?_]
      · exact hrecord
      · rw [hsame] at hrecord
        cases hheld.symm.trans hrecord

theorem forward_observeMission {missions : Document} {now : Nat}
    (seen : Observation) (missionId : String) :
    Forward seen.records (observeMission missions now seen missionId).records := by
  unfold observeMission
  split
  · exact Forward.refl _
  · split
    · exact Forward.refl _
    · unfold observeEligible
      split
      · exact Forward.refl _
      · rename_i record created records hobserve
        exact forward_observe hobserve

theorem forward_observeAll (records : RetentionDocument) (missions : Document) (now : Nat) :
    Forward records (observeAll records missions now).records := by
  have hfold : ∀ (missionIds : List String) (seen : Observation), Forward seen.records
        (missionIds.foldl (observeMission missions now) seen).records := by
    intro missionIds
    induction missionIds with
    | nil => exact fun seen => Forward.refl _
    | cons missionId rest ih =>
        exact fun seen => (forward_observeMission seen missionId).trans (ih _)
  exact hfold (sortedBy id missions.missions.keys)
    { records := records, observed := 0, problems := [] }

section

variable [SnapshotDigest]

variable {conversationId : String}

variable {turns : Turns} {requests : Requests}

/-- The conversations a judgement releases are judged on the turns read, and no
other Mission needs them. -/
theorem judge_release {records : RetentionDocument} {missions : Document} {missionId : String}
    {now : Nat} (h : conversationId ∈
      (judge records missions turns requests missionId now).release) :
    (judge records missions turns requests missionId now).checked.get?
        conversationId = some (conversationSnapshot turns conversationId) ∧
      unsafeMissions records missions turns requests missionId now
        conversationId = [] := by
  have hfold : ∀ (conversations : List String) (judgement : Judgement),
      (∀ released ∈ judgement.release, judgement.checked.get? released =
          some (conversationSnapshot turns released) ∧
        unsafeMissions records missions turns requests missionId now released = []) →
      ∀ released ∈ (conversations.foldl (judgeConversation records missions turns
          requests missionId now) judgement).release,
        (conversations.foldl (judgeConversation records missions turns requests
          missionId now) judgement).checked.get? released =
          some (conversationSnapshot turns released) ∧
        unsafeMissions records missions turns requests missionId now released =
          [] := by
    intro conversations
    induction conversations with
    | nil => exact fun judgement hjudged => hjudged
    | cons conversation rest ih =>
        intro judgement hjudged
        refine ih _ fun released hreleased => ?_
        unfold judgeConversation at hreleased ⊢
        dsimp only at hreleased ⊢
        split at hreleased
        · rename_i hnone
          rw [if_pos hnone]
          rw [Dict.get?_set]
          by_cases hsame : released = conversation
          · subst hsame
            exact ⟨if_pos rfl, hnone⟩
          · rw [if_neg hsame]
            rcases List.mem_append.mp hreleased with hbefore | hlast
            · exact hjudged released hbefore
            · exact absurd (List.mem_singleton.mp hlast) hsame
        · rename_i hsome
          rw [if_neg hsome]
          exact hjudged released hreleased
  exact hfold _ _ (by simp) conversationId h

omit [SnapshotDigest] in
/-- No other Mission needs the conversation, and the Mission's own words may
go: every Mission it produced is safe. -/
theorem safe_of_unsafeMissions {records : RetentionDocument}
    {missions : Document}
    {missionId : String} {now : Nat}
    (hnone : unsafeMissions records missions turns requests missionId now
      conversationId = []) (hown : safe records missions (some missionId) now = true) :
    ∀ other ∈ conversationMissions turns requests conversationId,
      safe records missions other now = true := by
  intro other hother
  by_cases hsame : other = some missionId
  · rw [hsame]
    exact hown
  · by_contra hunsafe
    have hmem : other ∈ unsafeMissions records missions turns requests missionId
        now conversationId := by
      simp only [unsafeMissions, List.mem_filter, decide_eq_true_eq]
      exact ⟨hother, hsame, by simpa using hunsafe⟩
    rw [hnone] at hmem
    cases hmem

/-! ## The sweep -/

variable {now : Nat} {missions : Document}

/-- The working document of a sweep holds records that may go for the same
Missions as the stored one, and it goes on from the one loaded. -/
structure Sweeping (now : Nat) (missions : Document)
    (working : RetentionDocument) (memory : Memory) : Prop where
  filed : Filed working
  missionsRead : memory.missions = some missions
  stored : ∃ stored, memory.stored = some stored ∧ Alike now working stored
  forward : ∃ loaded, memory.loaded = some loaded ∧ Forward loaded working

/-- What the sweep goes on from is no obstacle to go on. -/
def SweepFails (now : Nat) (missions : Document) (raised : Raised)
    (working : RetentionDocument) (memory : Memory) : Prop :=
  raised.reported = true → Sweeping now missions working memory

/-- The record acted on, as the working document holds it. -/
structure Acting (now : Nat) (missions : Document) (record : RetentionRecord)
    (working : RetentionDocument) (memory : Memory) : Prop
    extends Sweeping now missions working memory where
  held : ∃ current, working.get? record.key = some current ∧
    mayGo now current = true ∧ current.phase ≠ .deleted ∧
    current.family = .missionCore ∧ current.recordId = record.recordId

/-- The stores that decide were read. -/
structure Reading (turns : Turns) (requests : Requests) (memory : Memory) :
    Prop where
  turnsRead : memory.turns = some turns
  requestsRead : memory.requests = some requests

omit [SnapshotDigest] in
theorem keepsIdentity_captured (summary : Summary) (now : Nat) :
    KeepsIdentity fun record => { record with
      summary := some summary, phase := .reclaiming, phaseAt := now } :=
  ⟨fun _ => rfl, fun _ => rfl, fun _ => rfl⟩

omit [SnapshotDigest] in
theorem keepsIdentity_finished (deleting : Bool) (retainedFor : List String)
    (now : Nat) : KeepsIdentity (finishedRecord deleting retainedFor now) :=
  ⟨fun _ => rfl, fun _ => rfl, fun _ => rfl⟩

variable {record : RetentionRecord}

variable {working : RetentionDocument} {memory : Memory}

omit [SnapshotDigest] in
theorem Acting.amended {f : RetentionRecord → RetentionRecord}
    (h : Acting now missions record working memory) (hf : KeepsIdentity f)
    (hreduced : ∀ record, (f record).phase.reduced = true) :
    Sweeping now missions (amendRecord record.key f working) memory := by
  obtain ⟨⟨hfiled, hread, ⟨stored, hstored, halike⟩, loaded, hloaded, honward⟩,
    current, hheld, hmay, hlive, -, -⟩ := h
  exact ⟨hfiled.amend hf, hread, ⟨stored, hstored,
    halike.amend hheld hmay (mayGo_of_reduced (hreduced current))⟩, loaded,
    hloaded, honward.amend hheld hlive (hreduced current)⟩

omit [SnapshotDigest] in
theorem Acting.amend {f : RetentionRecord → RetentionRecord}
    (h : Acting now missions record working memory) (hf : KeepsIdentity f)
    (hreduced : ∀ record, (f record).phase.reduced = true)
    (hlive : ∀ record, (f record).phase ≠ .deleted) :
    Acting now missions record (amendRecord record.key f working) memory := by
  obtain ⟨current, hheld, -, -, hfamily, hid⟩ := h.held
  refine ⟨h.amended hf hreduced, f current, ?_,
    mayGo_of_reduced (hreduced current), hlive current, ?_, ?_⟩
  · simp [get?_amendRecord, hheld]
  · rw [hf.family, hfamily]
  · rw [hf.recordId, hid]

theorem allows_other {deleting : Option String} {call : Call}
    (h : ∀ conversationIds reclaimedAt outcome checked,
      call ≠ .reclaimConversations conversationIds reclaimedAt outcome checked)
    (hsave : deleting = none → ∀ records, call ≠ .saveRetention records) :
    (sharing deleting now).allows memory call :=
  ⟨fun conversationIds reclaimedAt outcome checked hcall =>
    absurd hcall (h conversationIds reclaimedAt outcome checked),
    fun records hcall hsweep => absurd hcall (hsave hsweep records)⟩

/-- A sweep may save a document that goes on from the one loaded. -/
theorem allows_save (h : ∃ loaded, memory.loaded = some loaded ∧ Forward loaded working) :
    (sharing none now).allows memory (.saveRetention working) := by
  refine ⟨fun _ _ _ _ hcall => (by cases hcall), fun records hcall _ => ?_⟩
  cases hcall
  exact h

variable {p : RetentionDocument → Memory → Prop}

/-- A question whose answer leaves what matters alone. -/
theorem keeps_consult_steady (call : Call) (hcall : ∀ conversationIds reclaimedAt outcome checked,
      call ≠ .reclaimConversations conversationIds reclaimedAt outcome checked)
    (hsave : ∀ records, call ≠ .saveRetention records)
    (hsteady : ∀ working memory answer, p working memory → p working (memory.hear call answer))
    (hsweeping : ∀ working memory, p working memory → Sweeping now missions working memory) :
    Keeps (sharing none now) p (consult call) (fun _ => p) (SweepFails now missions) :=
  keeps_consult call (fun _ _ _ => allows_other hcall fun _ => hsave)
    (fun working memory reply h => hsteady working memory (.ok reply) h)
    fun working memory fault h _ =>
      hsweeping working _ (hsteady working memory (.error fault) h)

/-- A save of the working document leaves it as it is, known to be stored
unless the save was cut off. -/
theorem keeps_save_sweeping
    (hsweeping : ∀ working memory, p working memory → Sweeping now missions working memory)
    (hsaved : ∀ working memory, p working memory →
      p working { memory with stored := some working }) :
    Keeps (sharing none now) p save (fun _ => p) (SweepFails now missions) := by
  refine keeps_save (fun working memory h => allows_save (hsweeping working memory h).forward)
    hsaved fun working memory fault h hreported => ?_
  cases fault with
  | other => cases hreported
  | _ => exact hsweeping working memory h

omit [SnapshotDigest] in
theorem Acting.saved (h : Acting now missions record working memory) :
    Acting now missions record working { memory with stored := some working } :=
  ⟨⟨h.filed, h.missionsRead, ⟨working, rfl, Alike.refl now working⟩, h.forward⟩, h.held⟩

omit [SnapshotDigest] in
theorem Sweeping.saved (h : Sweeping now missions working memory) :
    Sweeping now missions working { memory with stored := some working } :=
  ⟨h.filed, h.missionsRead, ⟨working, rfl, Alike.refl now working⟩, h.forward⟩

/-- The record acted on, with the stores that decide read. -/
structure Deciding (now : Nat) (missions : Document) (record : RetentionRecord)
    (turns : Turns) (requests : Requests) (working : RetentionDocument) (memory : Memory) : Prop
    extends Acting now missions record working memory, Reading turns requests memory

theorem keeps_captureObserved (record : RetentionRecord) (mission : Mission)
    (turns : Turns) (requests : Requests) :
    Keeps (sharing none now) (Deciding now missions record turns requests)
      (captureObserved record mission missions now)
      (fun _ => Deciding now missions record turns requests)
      (SweepFails now missions) := by
  unfold captureObserved
  refine keeps_ite _ (fun _ => ?_) fun _ => keeps_pure () fun _ _ h => h
  refine Keeps.bind (keeps_consult_steady .readDelivery
    (fun _ _ _ _ h => by cases h) (fun _ h => by cases h)
    (fun working memory answer h => ?_)
    fun _ _ h => h.toSweeping) fun reading => ?_
  · cases answer <;> exact h
  · refine Keeps.bind (keeps_change _ fun working memory h => ?_) fun _ =>
      keeps_save_sweeping (fun _ _ h => h.toSweeping)
        fun _ _ h => ⟨h.toActing.saved, ⟨h.turnsRead, h.requestsRead⟩⟩
    exact ⟨h.toActing.amend (keepsIdentity_captured _ _) (fun _ => rfl)
      fun _ h => (by cases h), h.toReading⟩

variable {mission : Mission}

/-- What a sweep asks the journal to reduce is released by what it has read. -/
theorem Deciding.releases (h : Deciding now missions record turns requests working
      memory) (hmission : missions.missions.get? record.recordId = some mission)
    (heligible : eligible mission (missions.missionState.get? record.recordId) = true) :
    ∃ stored, memory.Releases none now
      (judge working missions turns requests record.recordId now).release
      (judge working missions turns requests record.recordId now).checked stored
      missions turns requests := by
  obtain ⟨stored, hstored, halike⟩ := h.stored
  obtain ⟨current, hheld, hmay, -, hfamily, hid⟩ := h.held
  have hkey : retentionKey .missionCore record.recordId = record.key := by
    rw [← hid, ← hfamily]
    exact (h.filed record.key current hheld).2.symm
  have hown : safe working missions (some record.recordId) now = true := by
    simp only [safe, hmission, heligible, hkey, hheld, Option.any_some, Bool.true_and]
    exact hmay
  refine ⟨stored, hstored, h.missionsRead, h.turnsRead, h.requestsRead,
    fun conversationId hreleased => (judge_release hreleased).1,
    fun conversationId hreleased => .inl fun other hother => ?_⟩
  rw [← safe_congr halike]
  exact safe_of_unsafeMissions (judge_release hreleased).2 hown other hother

theorem keeps_reduceStores (record : RetentionRecord)
    (turns : Turns) (requests : Requests) (records : RetentionDocument)
    (refs : List String) (outcome : ReclaimOutcome)
    (hmission : missions.missions.get? record.recordId = some mission)
    (heligible : eligible mission (missions.missionState.get? record.recordId) = true) :
    Keeps (sharing none now) (fun working memory => working = records ∧
        Deciding now missions record turns requests working memory)
      (reduceStores (judge records missions turns requests record.recordId now)
        refs record.recordId now outcome)
      (fun _ working memory => Acting now missions record working memory)
      (SweepFails now missions) := by
  have hreduce : Keeps (sharing none now) (fun working memory => working = records ∧
        Deciding now missions record turns requests working memory)
      (consult (.reclaimConversations
        (judge records missions turns requests record.recordId now).release now
        outcome
        (judge records missions turns requests record.recordId now).checked))
      (fun _ working memory => Acting now missions record working memory)
      (SweepFails now missions) := by
    refine keeps_consult _ (fun working memory h => ?_) (fun working memory reply h => h.2.toActing)
      fun working memory fault h _ => h.2.toSweeping
    obtain ⟨rfl, hdeciding⟩ := h
    refine ⟨fun conversationIds reclaimedAt outcome checked hcall => ?_,
      fun _ hcall => (by cases hcall)⟩
    cases hcall
    obtain ⟨stored, hreleases⟩ := hdeciding.releases hmission heligible
    exact ⟨stored, missions, turns, requests, hreleases⟩
  refine Keeps.bind hreduce fun _ => Keeps.bind (keeps_consult_steady _
    (fun _ _ _ _ h => by cases h) (fun _ h => by cases h)
    (fun working memory answer h => ?_)
    fun _ _ h => h.toSweeping) fun _ => Keeps.bind (keeps_consult_steady _
      (fun _ _ _ _ h => by cases h) (fun _ h => by cases h)
    (fun working memory answer h => ?_)
      fun _ _ h => h.toSweeping) fun _ => keeps_pure () fun _ _ h => h
  · cases answer <;> exact h
  · cases answer <;> exact h

theorem keeps_waitForShared
    (deleting : Bool) (keptFor : List String) (hsweeping : ∀ working memory, p working memory →
      Sweeping now missions working memory) :
    Keeps (sharing none now) p (waitForShared deleting keptFor) (fun _ => p)
      (SweepFails now missions) :=
  keeps_ite _ (fun _ => keeps_stop _ fun working memory h _ =>
    hsweeping working memory h) fun _ => keeps_pure () fun _ _ h => h

omit [SnapshotDigest] in
theorem reduced_finished (deleting : Bool) (retainedFor : List String) (now : Nat)
    (record : RetentionRecord) :
    (finishedRecord deleting retainedFor now record).phase.reduced = true := by
  cases deleting <;> rfl

theorem keeps_reclaimEligible (record : RetentionRecord)
    (hmission : missions.missions.get? record.recordId = some mission)
    (heligible : eligible mission (missions.missionState.get? record.recordId) = true) :
    Keeps (sharing none now) (Acting now missions record)
      (reclaimEligible record mission missions now)
      (fun _ => Sweeping now missions) (SweepFails now missions) := by
  have hturns : Keeps (sharing none now) (Acting now missions record)
      (consult .loadJournal) (fun turns working memory =>
        Acting now missions record working memory ∧ memory.turns = some turns)
      (SweepFails now missions) :=
    keeps_consult _ (fun _ _ _ => allows_other (fun _ _ _ _ h => by cases h)
      fun _ _ h => by cases h)
      (fun _ _ _ h => ⟨⟨⟨h.filed, h.missionsRead, h.stored, h.forward⟩, h.held⟩, rfl⟩)
      fun _ _ _ h _ => h.toSweeping
  have hrequests : ∀ turns : Turns, Keeps (sharing none now)
      (fun working memory => Acting now missions record working memory ∧ memory.turns = some turns)
      (consult .loadRequests) (fun requests working memory =>
        Deciding now missions record turns requests.1 working memory)
      (SweepFails now missions) := fun turns =>
    keeps_consult _ (fun _ _ _ => allows_other (fun _ _ _ _ h => by cases h)
      fun _ _ h => by cases h)
      (fun _ _ _ h => ⟨⟨⟨h.1.filed, h.1.missionsRead, h.1.stored, h.1.forward⟩,
        h.1.held⟩, ⟨h.2, rfl⟩⟩)
      fun _ _ _ h _ => h.1.toSweeping
  refine Keeps.bind hturns fun turns => Keeps.bind (hrequests turns)
    fun requests => Keeps.bind (keeps_captureObserved record mission turns requests.1) fun _ => ?_
  refine Keeps.bind keeps_read_self fun records => ?_
  refine Keeps.bind (keeps_waitForShared _ _ fun _ _ h => h.2.toSweeping) fun _ => ?_
  refine Keeps.bind (keeps_reduceStores record turns requests.1 records _ _
    hmission heligible) fun _ => Keeps.bind (keeps_change _
      fun working memory h => h.amended (keepsIdentity_finished _ _ _)
        fun current => reduced_finished _ _ _ current) fun _ =>
    Keeps.bind (keeps_save_sweeping (fun _ _ h => h)
      fun _ _ h => h.saved) fun _ => keeps_pure true fun _ _ h => h

/-- The record of one pending Mission is acted on. -/
theorem keeps_reclaimOne (record : RetentionRecord) :
    Keeps (sharing none now) (Acting now missions record)
      (reclaimOne record missions now) (fun _ => Sweeping now missions)
      (SweepFails now missions) := by
  refine Keeps.bind (keeps_consult_steady (.hold record.recordId)
    (fun _ _ _ _ h => by cases h) (fun _ h => by cases h)
    (fun working memory answer h => ?_)
    fun _ _ h => h.toSweeping) fun held => keeps_ite _ (fun _ => ?_) fun _ =>
      keeps_pure false fun _ _ h => h.toSweeping
  · cases answer <;> exact h
  · unfold reclaimHeld
    split
    · exact keeps_pure false fun _ _ h => h.toSweeping
    · rename_i mission hmission
      exact keeps_ite _ (keeps_reclaimEligible record hmission) fun _ =>
        keeps_pure false fun _ _ h => h.toSweeping

theorem keeps_visitRecord (tally : Tally) (key : String) :
    Keeps (sharing none now) (Sweeping now missions)
      (visitRecord missions now tally key) (fun _ => Sweeping now missions)
      (fun _ _ _ => True) := by
  refine Keeps.bind keeps_read_self fun records => ?_
  cases hheld : records.get? key with
  | none => exact keeps_pure tally fun _ _ h => h.2
  | some record =>
      refine keeps_ite _ (fun hpending => ?_) fun _ =>
        keeps_pure tally fun _ _ h => h.2
      refine keeps_ite _ (fun _ => keeps_pure _ fun _ _ h => h.2) fun _ => ?_
      refine Keeps.onFault (Keeps.bind ((keeps_reclaimOne record).weaken
        fun working memory h => ?_) fun done => keeps_pure _ fun _ _ h => h) fun raised => ?_
      · obtain ⟨rfl, hsweeping⟩ := h
        obtain ⟨hkey, -⟩ := hsweeping.filed key record hheld
        exact ⟨hsweeping, record, by rw [hkey]; exact hheld,
          mayGo_of_pending hpending.2, live_of_pending hpending.2, hpending.1, rfl⟩
      · exact keeps_ite _ (fun hreported => keeps_pure _
          fun _ _ h => h hreported) fun _ => keeps_stop raised fun _ _ _ => trivial

theorem keeps_visitAll (keys : List String) (tally : Tally) :
    Keeps (sharing none now) (Sweeping now missions)
      (visitAll missions now keys tally) (fun _ => Sweeping now missions)
      (fun _ _ _ => True) := by
  induction keys generalizing tally with
  | nil => exact keeps_pure tally fun _ _ h => h
  | cons key rest ih =>
      exact Keeps.bind (keeps_visitRecord tally key) fun next => ih next

/-- The sweep keeps the group rule, from the moment it starts. -/
theorem keeps_sweep : Keeps (sharing none now) (fun _ memory => memory = .blank) (sweep now)
      (fun _ _ _ => True) (fun _ _ _ => True) := by
  have hrecords : Keeps (sharing none now) (fun _ memory => memory = .blank)
      (consult .loadRetention)
      (fun (records : LoadedRetention) _ memory =>
        memory.stored = some records.1 ∧ memory.loaded = some records.1)
      (fun _ _ _ => True) :=
    keeps_consult _ (fun _ _ _ => allows_other (fun _ _ _ _ h => by cases h)
      fun _ _ h => by cases h)
      (fun _ _ _ h => by rw [h]; exact ⟨rfl, rfl⟩) fun _ _ _ _ => trivial
  have hmissions : ∀ records : LoadedRetention, Keeps (sharing none now)
      (fun _ memory => memory.stored = some records.1 ∧ memory.loaded = some records.1)
      (consult .loadMissions)
      (fun missions _ memory => (memory.stored = some records.1 ∧
        memory.loaded = some records.1) ∧ memory.missions = some missions.1)
      (fun _ _ _ => True) := fun records =>
    keeps_consult _ (fun _ _ _ => allows_other (fun _ _ _ _ h => by cases h)
      fun _ _ h => by cases h)
      (fun _ _ _ h => ⟨h, rfl⟩) fun _ _ _ _ => trivial
  refine Keeps.bind hrecords fun records => Keeps.bind (hmissions records) fun missions => ?_
  obtain ⟨hfiled, hsame⟩ := filed_observeAll missions.1 now records.2.filed
  have hchange : Keeps (sharing none now) (fun _ memory => (memory.stored = some records.1 ∧
        memory.loaded = some records.1) ∧ memory.missions = some missions.1)
      (change fun _ => (observeAll records.1 missions.1 now).records : Pass Unit)
      (fun _ working memory =>
        working = (observeAll records.1 missions.1 now).records ∧
        (memory.stored = some records.1 ∧ memory.loaded = some records.1) ∧
        memory.missions = some missions.1)
      (fun _ _ _ => True) := keeps_change _ fun _ _ h => ⟨rfl, h⟩
  have hsave : Keeps (sharing none now) (fun working memory =>
        working = (observeAll records.1 missions.1 now).records ∧
        (memory.stored = some records.1 ∧ memory.loaded = some records.1) ∧
        memory.missions = some missions.1)
      (saveObserved (observeAll records.1 missions.1 now).observed)
      (fun _ => Sweeping now missions.1) (fun _ _ _ => True) := by
    have honward := forward_observeAll records.1 missions.1 now
    refine keeps_ite _ (fun _ => ?_) fun hnone => keeps_pure () fun _ _ h => ?_
    · exact keeps_save (fun working _ h => allows_save ⟨records.1, h.2.1.2, h.1 ▸ honward⟩)
        (fun working _ h => ⟨by rw [h.1]; exact hfiled, h.2.2,
          ⟨working, rfl, Alike.refl now working⟩, records.1, h.2.1.2,
          h.1 ▸ honward⟩) fun _ _ _ _ => trivial
    · obtain ⟨rfl, ⟨hstored, hloaded⟩, hmissions⟩ := h
      refine ⟨hfiled, hmissions, ⟨records.1, hstored, ?_⟩, records.1, hloaded, honward⟩
      rw [hsame (Nat.eq_zero_of_not_pos hnone)]
      exact Alike.refl now records.1
  exact Keeps.bind hchange fun _ => Keeps.bind hsave fun _ =>
    Keeps.bind (keeps_visitAll _ _) fun _ => keeps_pure _ fun _ _ _ => trivial

/-! ## The owner's deletion -/

/-- Before its reduction a deletion has read the stores that decide. -/
structure Deleting (missions : Document) (turns : Turns) (requests : Requests)
    (memory : Memory) : Prop extends Reading turns requests memory where
  missionsRead : memory.missions = some missions

variable {missionId : String}

/-- The postcondition of a question that no protocol of reductions restricts. -/
theorem keeps_consult_free (call : Call) (hcall : ∀ conversationIds reclaimedAt outcome checked,
      call ≠ .reclaimConversations conversationIds reclaimedAt outcome checked)
    {p : Memory → Prop} {q : call.Reply → Memory → Prop}
    (h : ∀ memory reply, p memory → q reply (memory.hear call (.ok reply))) :
    Keeps (sharing (some missionId) now) (fun _ => p) (consult call)
      (fun reply _ => q reply) (fun _ _ _ => True) :=
  keeps_consult call (fun _ _ _ => allows_other hcall fun h => by cases h)
    (fun _ memory reply hp => h memory reply hp) fun _ _ _ _ => trivial

/-- After the reduction nothing is restricted any more. -/
theorem keeps_consult_after (call : Call) (hcall : ∀ conversationIds reclaimedAt outcome checked,
      call ≠ .reclaimConversations conversationIds reclaimedAt outcome checked) :
    Keeps (sharing (some missionId) now) (fun _ _ => True) (consult call)
      (fun _ _ _ => True) (fun _ _ _ => True) :=
  keeps_consult_free call hcall fun _ _ _ => trivial

theorem keeps_save_after : Keeps (sharing (some missionId) now) (fun _ _ => True) save
      (fun _ _ _ => True) (fun _ _ _ => True) :=
  keeps_save (fun _ _ _ => allows_other (fun _ _ _ _ h => by cases h)
    fun h => by cases h) (fun _ _ _ => trivial) fun _ _ _ _ => trivial

theorem keeps_refuseIf (bad : Prop) {_ : Decidable bad} (refusal : Refusal) :
    Keeps (sharing (some missionId) now) p (refuseIf bad refusal)
      (fun _ working memory => p working memory ∧ ¬ bad) (fun _ _ _ => True) :=
  keeps_ite _ (fun _ => keeps_stop _ fun _ _ _ => trivial) fun hgood =>
    keeps_pure () fun _ _ h => ⟨h, hgood⟩

theorem keeps_resolve {α : Type} (value : Option α) (refusal : Refusal) :
    Keeps (sharing (some missionId) now) p (resolve value refusal)
      (fun held working memory => p working memory ∧ value = some held)
      (fun _ _ _ => True) := by
  cases value with
  | none => exact keeps_stop _ fun _ _ _ => trivial
  | some held => exact keeps_pure held fun _ _ h => ⟨h, rfl⟩

theorem keeps_requireEligible (mission : Mission) (stateRecord : Option StateRecord) :
    Keeps (sharing (some missionId) now) p (requireEligible mission stateRecord)
      (fun _ => p) (fun _ _ _ => True) := by
  unfold requireEligible
  split
  · exact keeps_pure _ fun _ _ h => h
  · exact keeps_stop _ fun _ _ _ => trivial

variable {conversations : List String}

theorem get?_snapshots (h : conversationId ∈ conversations) :
    (snapshots turns conversations).get? conversationId =
      some (conversationSnapshot turns conversationId) := by
  have hfold : ∀ (conversations : List String) (checked : Dict String SnapshotDigest.Digest),
      conversationId ∈ conversations ∨ checked.get? conversationId =
        some (conversationSnapshot turns conversationId) →
      (conversations.foldl (fun checked conversationId =>
        checked.set conversationId (conversationSnapshot turns conversationId))
        checked).get? conversationId =
        some (conversationSnapshot turns conversationId) := by
    intro conversations
    induction conversations with
    | nil =>
        intro checked h
        rcases h with h | h
        · cases h
        · exact h
    | cons first rest ih =>
        intro checked h
        rw [List.foldl_cons]
        apply ih
        by_cases hsame : conversationId = first
        · right
          rw [Dict.get?_set, if_pos hsame, hsame]
        · rcases h with h | h
          · exact .inl ((List.mem_cons.mp h).resolve_left hsame)
          · right
            rw [Dict.get?_set, if_neg hsame]
            exact h
  exact hfold conversations .empty (.inl h)

omit [SnapshotDigest] in
/-- A conversation that no other Mission is named for has the Mission deleted as
its only one: the name of an unconfirmed one is no Mission id. -/
theorem only_mission (hid : idProblem missionId .mission = none)
    (hothers : otherMissions turns requests conversations missionId = [])
    (hconversation : conversationId ∈ conversations) :
    ∀ other ∈ conversationMissions turns requests conversationId,
      other = some missionId := by
  intro other hother
  have hname : missionText other = missionId := by
    by_contra hne
    have hmem : missionText other ∈
        otherMissions turns requests conversations missionId := by
      simp only [otherMissions, List.mem_filter, decide_eq_true_eq]
      exact ⟨List.mem_map_of_mem (List.mem_flatMap.mpr ⟨conversationId,
        hconversation, hother⟩), hne⟩
    rw [hothers] at hmem
    cases hmem
  cases other with
  | none =>
      rw [← hname] at hid
      exact absurd hid (by decide)
  | some other => exact congrArg some hname

theorem keeps_unsavedWithdrawal (removed : Removed) (previously : Option Phase) (raised : Raised) :
    Keeps (sharing (some missionId) now) (fun _ _ => True)
      (unsavedWithdrawal removed previously raised) (fun _ _ _ => True)
      (fun _ _ _ => True) := by
  unfold unsavedWithdrawal
  split <;> exact keeps_stop _ fun _ _ _ => trivial

theorem keeps_observeForDeletion (basis : Basis) {p : Memory → Prop} :
    Keeps (sharing (some missionId) now) (fun _ => p)
      (observeForDeletion missionId basis now) (fun _ _ => p)
      (fun _ _ _ => True) := by
  refine Keeps.bind keeps_read_self fun records => ?_
  split
  · exact keeps_stop _ fun _ _ _ => trivial
  · exact Keeps.bind (keeps_change _ fun _ _ h => h.2) fun _ =>
      keeps_pure _ fun _ _ h => h

variable {refs : List String}

theorem keeps_deletePayload {missions : Document} {key : String}
    {prior : Option RetentionRecord} {hadSummary : Bool} (hid : idProblem missionId .mission = none)
    (hothers : otherMissions turns requests conversations missionId = []) :
    Keeps (sharing (some missionId) now) (fun _ memory => Deleting missions turns requests memory ∧
        ∃ stored, memory.stored = some stored)
      (deletePayload key missionId conversations refs
        (snapshots turns conversations) prior hadSummary now)
      (fun _ _ _ => True) (fun _ _ _ => True) := by
  have hreduce : Keeps (sharing (some missionId) now)
      (fun _ memory => Deleting missions turns requests memory ∧
        ∃ stored, memory.stored = some stored)
      (consult (.reclaimConversations conversations now .deleted
        (snapshots turns conversations)))
      (fun _ _ _ => True) (fun _ _ _ => True) := by
    refine keeps_consult _ (fun _ memory h => ⟨?_, fun _ _ h => by cases h⟩)
      (fun _ _ _ _ => trivial) fun _ _ _ _ => trivial
    intro conversationIds reclaimedAt outcome checked hcall
    cases hcall
    obtain ⟨hdeleting, stored, hstored⟩ := h
    exact ⟨stored, missions, turns, requests, hstored, hdeleting.missionsRead,
      hdeleting.turnsRead, hdeleting.requestsRead,
      fun conversationId hmem => get?_snapshots hmem,
      fun conversationId hmem =>
        .inr ⟨missionId, rfl, only_mission hid hothers hmem⟩⟩
  refine Keeps.bind (Keeps.onFault hreduce fun raised => ?_) fun _ => ?_
  · unfold answerJournal
    split
    · exact Keeps.bind (Keeps.bind (keeps_change _ fun _ _ _ => trivial)
        fun _ => Keeps.onFault keeps_save_after fun raised =>
          keeps_unsavedWithdrawal _ _ raised) fun _ =>
        keeps_stop _ fun _ _ _ => trivial
    · exact keeps_stop _ fun _ _ _ => trivial
  · refine Keeps.bind (Keeps.onFault (keeps_consult_after _
      fun _ _ _ _ h => by cases h) fun _ => keeps_stop _ fun _ _ _ => trivial)
      fun _ => Keeps.bind (Keeps.onFault (keeps_consult_after _
        fun _ _ _ _ h => by cases h) fun _ => keeps_stop _ fun _ _ _ => trivial)
        fun _ => keeps_pure _ fun _ _ _ => trivial

theorem keeps_deleteHeld {missions : Document} {basis : Basis}
    (hid : idProblem missionId .mission = none)
    (hothers : otherMissions turns requests conversations missionId = []) :
    Keeps (sharing (some missionId) now) (fun _ memory => Deleting missions turns requests memory)
      (deleteHeld missionId basis conversations refs
        (snapshots turns conversations) now)
      (fun _ _ _ => True) (fun _ _ _ => True) := by
  have hobserve : Keeps (sharing (some missionId) now)
      (fun _ memory => Deleting missions turns requests memory)
      (observeForDeletion missionId basis now)
      (fun _ _ memory => Deleting missions turns requests memory)
      (fun _ _ _ => True) := keeps_observeForDeletion basis
  have hsave : Keeps (sharing (some missionId) now)
      (fun _ memory => Deleting missions turns requests memory) save
      (fun _ _ memory => Deleting missions turns requests memory ∧
        ∃ stored, memory.stored = some stored)
      (fun _ _ _ => True) :=
    keeps_save (fun _ _ _ => allows_other (fun _ _ _ _ h => by cases h)
      fun h => by cases h) (fun working _ h => ⟨⟨⟨h.turnsRead, h.requestsRead⟩, h.missionsRead⟩,
        working, rfl⟩) fun _ _ _ _ => trivial
  refine Keeps.bind keeps_read_self fun records =>
    Keeps.bind (hobserve.weaken fun _ _ h => h.2) fun record =>
    Keeps.bind (keeps_change _ fun _ _ h => h) fun _ =>
    Keeps.bind hsave fun _ =>
    Keeps.bind (keeps_deletePayload hid hothers) fun removed =>
    Keeps.bind (keeps_change _ fun _ _ _ => trivial) fun _ =>
    Keeps.bind keeps_save_after fun _ => keeps_pure _ fun _ _ _ => trivial

/-- The owner's deletion keeps the group rule, from the moment it starts. -/
theorem keeps_delete (storeIdentity displayedState : String) (requestedStore : Option String) :
    Keeps (sharing (some missionId) now) (fun _ memory => memory = .blank)
      (delete storeIdentity missionId displayedState requestedStore now)
      (fun _ _ _ => True) (fun _ _ _ => True) := by
  have hrecords : Keeps (sharing (some missionId) now)
      (fun _ memory => memory = .blank ∧ ¬ requestedStore ≠ some storeIdentity)
      (consult .loadRetention) (fun _ _ _ => True) (fun _ _ _ => True) :=
    keeps_consult_free .loadRetention (fun _ _ _ _ h => by cases h)
      fun _ _ _ => trivial
  have hmissions : Keeps (sharing (some missionId) now) (fun _ _ => True) (consult .loadMissions)
      (fun (missions : LoadedMissions) _ memory =>
        memory.missions = some missions.1)
      (fun _ _ _ => True) :=
    keeps_consult_free .loadMissions (fun _ _ _ _ h => by cases h)
      fun _ _ _ => rfl
  have hturns : ∀ (missions : LoadedMissions) (mission : Mission),
      Keeps (sharing (some missionId) now)
      (fun _ memory => memory.missions = some missions.1 ∧
        missions.1.missions.get? missionId = some mission)
      (consult .loadJournal)
      (fun (turns : Turns) _ memory => memory.turns = some turns ∧
        memory.missions = some missions.1 ∧ missions.1.missions.get? missionId = some mission)
      (fun _ _ _ => True) := fun missions mission =>
    keeps_consult_free .loadJournal (fun _ _ _ _ h => by cases h)
      fun _ _ h => ⟨rfl, h⟩
  have hrequests : ∀ (missions : LoadedMissions) (mission : Mission)
      (turns : Turns), Keeps (sharing (some missionId) now)
      (fun _ memory => memory.turns = some turns ∧ memory.missions = some missions.1 ∧
        missions.1.missions.get? missionId = some mission)
      (consult .loadRequests)
      (fun (requests : LoadedRequests) _ memory =>
        Deleting missions.1 turns requests.1 memory ∧
        missions.1.missions.get? missionId = some mission)
      (fun _ _ _ => True) := fun missions mission turns =>
    keeps_consult_free .loadRequests (fun _ _ _ _ h => by cases h)
      fun _ _ h => ⟨⟨⟨h.1, rfl⟩, h.2.1⟩, h.2.2⟩
  refine Keeps.bind (keeps_refuseIf _ _) fun _ =>
    Keeps.bind hrecords fun records =>
    Keeps.bind (keeps_change _ fun _ _ _ => trivial) fun _ =>
    Keeps.bind hmissions fun missions =>
    Keeps.bind (keeps_resolve _ _) fun mission =>
    Keeps.bind (hturns missions mission) fun turns =>
    Keeps.bind (hrequests missions mission turns) fun requests => ?_
  refine Keeps.bind (keeps_refuseIf _ _) fun _ =>
    Keeps.bind (keeps_refuseIf _ _) fun _ =>
    Keeps.bind (keeps_refuseIf _ _) fun _ =>
    Keeps.bind (keeps_requireEligible _ _) fun basis =>
    Keeps.bind (keeps_refuseIf _ _) fun _ =>
    Keeps.bind (keeps_refuseIf _ _) fun _ => ?_
  intro working memory hpre
  obtain ⟨⟨⟨⟨⟨⟨hdeleting, hmission⟩, -⟩, -⟩, -⟩, hothers⟩, -⟩ := hpre
  have hid := missions.2 (missionId, mission) ((Dict.mem_entries_iff _ _ _).mpr hmission)
  have hhold : Keeps (sharing (some missionId) now)
      (fun _ memory => Deleting missions.1 turns requests.1 memory)
      (consult (.hold missionId))
      (fun _ _ memory => Deleting missions.1 turns requests.1 memory)
      (fun _ _ _ => True) :=
    keeps_consult_free (.hold missionId) (fun _ _ _ _ h => by cases h)
      fun _ _ h => h
  exact Keeps.bind hhold (fun held => Keeps.bind (keeps_refuseIf _ _) fun _ =>
    (keeps_deleteHeld hid (not_not.mp hothers)).weaken fun _ _ h => h.1)
    working memory hdeleting

theorem keeps_program (call : PassCall) :
    call.program.Keeps (sharing call.deleting call.now) (fun _ _ => True)
      .blank := by
  have hkeeps : Keeps (sharing call.deleting call.now)
      (fun _ memory => memory = .blank) call.pass (fun _ _ _ => True)
      (fun _ _ _ => True) := by
    cases call with
    | sweep now =>
        exact Keeps.bind keeps_sweep fun _ => keeps_pure _ fun _ _ _ => trivial
    | delete storeIdentity missionId displayedState requestedStore now =>
        exact Keeps.bind (keeps_delete storeIdentity displayedState
          requestedStore) fun _ => keeps_pure _ fun _ _ _ => trivial
  exact (hkeeps defaultDocument .blank rfl).mono fun _ _ _ => trivial

/-! ## Every history -/

/-- Over every order of sweeps and deletions, with any faults, cuts and
changes of others: when the turns of a conversation are reduced, they are the
very turns judged, every Mission they name is confirmed, and each is eligible
with its record due or already reduced, or the only one is being deleted. -/
theorem shared_conversation_reduced_safely {start final : World}
    {passages : List Passage} {passage : Passage} {before after : List Question}
    {asked : Question} (hrun : History start passages final) (hpassage : passage ∈ passages)
    (htrace : passage.trace = before ++ asked :: after)
    (hreduced : conversationTurns asked.before.turns conversationId ≠
      conversationTurns asked.after.turns conversationId) : ∃ missions turns requests,
      (heard before).missions = some missions ∧ (heard before).turns = some turns ∧
      (heard before).requests = some requests ∧
      conversationTurns asked.before.turns conversationId = conversationTurns turns conversationId ∧
      none ∉ conversationMissions asked.before.turns requests conversationId ∧
      Releasable passage.call.deleting asked.before.retention missions
        asked.before.turns requests passage.call.now conversationId := by
  obtain ⟨hallowed, hagrees, hanswer⟩ := (keeps_program passage.call).asked
    (sharing_faithful _ _ _) (Memory.agrees_blank _ _)
    (hrun.real passage hpassage) htrace
  obtain ⟨conversationIds, reclaimedAt, outcome, checked, hcall, hmem,
    hchecked⟩ := turns_change hanswer hreduced
  obtain ⟨records, missions, turns, requests, hreleases⟩ := hallowed.1
    conversationIds reclaimedAt outcome checked hcall
  have hsame : conversationTurns asked.before.turns conversationId =
      conversationTurns turns conversationId := by
    have hsnapshot := hreleases.snapshot conversationId hmem
    rw [hchecked] at hsnapshot
    exact SnapshotDigest.injective (Option.some.inj hsnapshot)
  have hstored := hagrees.stored records hreleases.storedRead
  have hrelease := hreleases.release conversationId hmem
  refine ⟨missions, turns, requests, hreleases.missionsRead,
    hreleases.turnsRead, hreleases.requestsRead, hsame, fun hnone => ?_, ?_⟩
  · have hjudged := (mem_conversationMissions_congr hsame).mp hnone
    rcases hrelease with hsafe | ⟨missionId, -, honly⟩
    · exact absurd (hsafe none hjudged) (by simp [safe])
    · cases honly none hjudged
  · rw [hstored]
    rcases hrelease with hsafe | ⟨missionId, hdeleting, honly⟩
    · exact .inl fun other hother =>
        hsafe other ((mem_conversationMissions_congr hsame).mp hother)
    · exact .inr ⟨missionId, hdeleting, fun other hother =>
        honly other ((mem_conversationMissions_congr hsame).mp hother)⟩

end

/-- A resumed deletion reduces the conversation of its only Mission. -/
theorem shared_conversation_reduced_safely_sample : letI := sampleSnapshotDigest
    ∃ before asked after missions turns requests,
      ((PassCall.sweep sampleDue).undisturbed interruptedWorld).trace = before ++ asked :: after ∧
      (heard before).missions = some missions ∧ (heard before).turns = some turns ∧
      (heard before).requests = some requests ∧
      conversationTurns asked.before.turns (numberedId .decision 0) =
        conversationTurns turns (numberedId .decision 0) ∧
      none ∉ conversationMissions asked.before.turns requests (numberedId .decision 0) ∧
      Releasable none asked.before.retention missions asked.before.turns
        requests sampleDue (numberedId .decision 0) := by
  let _ := sampleSnapshotDigest
  obtain ⟨asked, hasked, hreduced⟩ :=
    (Option.any_eq_true ..).mp resumption_reduces
  obtain ⟨before, after, hsplit⟩ :=
    List.append_of_mem (List.mem_of_getElem? hasked)
  obtain ⟨missions, turns, requests, hjudged⟩ :=
    shared_conversation_reduced_safely (History.undisturbed (.sweep sampleDue) interruptedWorld)
      (List.mem_singleton_self _) hsplit (of_decide_eq_true hreduced)
  rw [PassCall.undisturbed_call, PassCall.deleting_sweep, PassCall.now_sweep] at hjudged
  exact ⟨before, asked, after, missions, turns, requests, hsplit, hjudged⟩

end DodgingInfinity.Retention
