import DodgingInfinity.Retention.SharedConversation

/-!
# The dates of a record

A record is dated twice: by the source, when the Mission's own record says when
it ended, and by the pass that first observed it.  No pass moves either date,
and a pass reduces a record only for a reason: its clock read the deadline of
the record, or the owner asked for the deletion, in this pass or in an earlier
one that the record remembers by its phase.
-/

namespace DodgingInfinity.Retention

open MissionCore Procedure

/-! ## Reasons to reduce -/

/-- The phases that a sweep of a due record leads to. -/
def Phase.byClock : Phase → Bool
  | .reclaiming | .reclaimed => true
  | .observed | .deleting | .deleted => false

/-- The phases that the owner's deletion leads to. -/
def Phase.byOwner : Phase → Bool
  | .deleting | .deleted => true
  | .observed | .reclaiming | .reclaimed => false

theorem Phase.reduced_eq (phase : Phase) :
    phase.reduced = (phase.byClock || phase.byOwner) := by
  cases phase <;> rfl

/-- A sweep that read the deadline of the record. -/
def PassCall.reclaims (call : PassCall) (record : RetentionRecord) : Prop :=
  call.deleting = none ∧ isDue record call.now = true

/-- The owner's deletion of the record's Mission. -/
def PassCall.deletes (call : PassCall) (record : RetentionRecord) : Prop :=
  call.deleting = some record.recordId

/-- What no pass changes of a record. -/
structure SameDates (first second : RetentionRecord) : Prop where
  recordId : second.recordId = first.recordId
  firstEligibleObservedAt :
    second.firstEligibleObservedAt = first.firstEligibleObservedAt
  terminalAt : second.terminalAt = first.terminalAt

theorem SameDates.refl (record : RetentionRecord) : SameDates record record :=
  ⟨rfl, rfl, rfl⟩

variable {first second : RetentionRecord}

theorem SameDates.trans {third : RetentionRecord}
    (h : SameDates first second) (hnext : SameDates second third) : SameDates first third :=
  ⟨hnext.recordId.trans h.recordId, hnext.firstEligibleObservedAt.trans h.firstEligibleObservedAt,
    hnext.terminalAt.trans h.terminalAt⟩

theorem SameDates.deadline
    (h : SameDates first second) : deadline second = deadline first := by
  simp only [Retention.deadline, h.terminalAt, h.firstEligibleObservedAt]

variable {call : PassCall}

theorem SameDates.reclaims (h : SameDates first second) (hreclaims : call.reclaims first) :
    call.reclaims second := by
  obtain ⟨hsweep, hdue⟩ := hreclaims
  refine ⟨hsweep, ?_⟩
  simp only [isDue, h.deadline]
  exact hdue

theorem SameDates.deletes (h : SameDates first second) (hdeletes : call.deletes first) :
    call.deletes second := by
  unfold PassCall.deletes
  rw [h.recordId]
  exact hdeletes

theorem retentionKey_injective {family : Family} {first second : String}
    (h : retentionKey .missionCore first = retentionKey family second) :
    family = .missionCore ∧ second = first := by
  have hlist := congrArg String.toList h
  cases family with
  | missionCore =>
      refine ⟨rfl, ?_⟩
      simp only [retentionKey, String.toList_append, List.append_cancel_left_eq]
        at hlist
      exact (String.toList_inj.mp hlist).symm
  | workflowStore =>
      simp [retentionKey, Family.text] at hlist

/-! ## One pass goes on from the document it loaded -/

/-- What a pass may make of a record it found, or of none. -/
structure GoesOn (call : PassCall) (found : Option RetentionRecord)
    (record : RetentionRecord) : Prop where
  dates : ∀ held, found = some held → SameDates held record
  firstSeen : found = none → record.firstEligibleObservedAt = call.now
  byClock : record.phase.byClock = true → call.reclaims record ∨
    ∃ held, found = some held ∧ held.phase.byClock = true
  byOwner : record.phase.byOwner = true → call.deletes record ∨
    ∃ held, found = some held ∧ held.phase.byOwner = true

theorem GoesOn.refl (call : PassCall) (record : RetentionRecord) :
    GoesOn call (some record) record where
  dates := fun held h => Option.some.inj h ▸ SameDates.refl record
  firstSeen := fun h => by cases h
  byClock := fun h => .inr ⟨record, rfl, h⟩
  byOwner := fun h => .inr ⟨record, rfl, h⟩

variable {record : RetentionRecord}

/-- A further change that moves no date and has its reason. -/
theorem GoesOn.amend {found : Option RetentionRecord}
    {next : RetentionRecord} (h : GoesOn call found record) (hdates : SameDates record next)
    (hclock : next.phase.byClock = true → record.phase.byClock = true ∨ call.reclaims record)
    (howner : next.phase.byOwner = true → record.phase.byOwner = true ∨
      call.deletes record) : GoesOn call found next where
  dates := fun held hheld => (h.dates held hheld).trans hdates
  firstSeen := fun hnone =>
    hdates.firstEligibleObservedAt.trans (h.firstSeen hnone)
  byClock := by
    intro hphase
    rcases hclock hphase with hbefore | hreclaims
    · rcases h.byClock hbefore with hreclaims | hfound
      · exact .inl (hdates.reclaims hreclaims)
      · exact .inr hfound
    · exact .inl (hdates.reclaims hreclaims)
  byOwner := by
    intro hphase
    rcases howner hphase with hbefore | hdeletes
    · rcases h.byOwner hbefore with hdeletes | hfound
      · exact .inl (hdates.deletes hdeletes)
      · exact .inr hfound
    · exact .inl (hdates.deletes hdeletes)

/-- A pass loses no record it found, and every record goes on from what was
found under its key. -/
structure Onward (call : PassCall) (start records : RetentionDocument) :
    Prop where
  kept : ∀ key held, start.get? key = some held → ∃ record, records.get? key = some record
  records : ∀ key record, records.get? key = some record → GoesOn call (start.get? key) record

theorem Onward.refl (call : PassCall) (start : RetentionDocument) : Onward call start start :=
  ⟨fun _ held h => ⟨held, h⟩, fun key record h => by
    rw [h]
    exact GoesOn.refl call record⟩

variable {start records : RetentionDocument} {key : String}

/-- A record that a pass found keeps its dates wherever the pass goes on to. -/
theorem Onward.dates (h : Onward call start records) (hheld : start.get? key = some record) :
    ∃ next, records.get? key = some next ∧ SameDates record next := by
  obtain ⟨next, hnext⟩ := h.kept key record hheld
  exact ⟨next, hnext, (h.records key next hnext).dates record hheld⟩

theorem Onward.amend
    {f : RetentionRecord → RetentionRecord} (h : Onward call start records)
    (hheld : records.get? key = some record) (hdates : SameDates record (f record))
    (hclock : (f record).phase.byClock = true → record.phase.byClock = true ∨ call.reclaims record)
    (howner : (f record).phase.byOwner = true → record.phase.byOwner = true ∨ call.deletes record) :
    Onward call start (amendRecord key f records) := by
  refine ⟨fun other held hother => ?_, fun other next hother => ?_⟩
  · rw [get?_amendRecord]
    by_cases hsame : other = key
    · rw [if_pos hsame, hheld]
      exact ⟨f record, rfl⟩
    · rw [if_neg hsame]
      exact h.kept other held hother
  · rw [get?_amendRecord] at hother
    by_cases hsame : other = key
    · subst hsame
      rw [if_pos rfl, hheld] at hother
      obtain rfl := Option.some.inj hother
      exact (h.records other record hheld).amend hdates hclock howner
    · rw [if_neg hsame] at hother
      exact h.records other next hother

/-- The record a pass first observes is dated by its clock. -/
theorem Onward.observe {next : RetentionDocument}
    {missionId : String} {basis : Basis}
    {created : Bool} (h : Onward call start records)
    (hobserve : observe records missionId basis call.now =
      .ok (record, created, next)) :
    Onward call start next := by
  unfold Retention.observe at hobserve
  cases hheld : records.get? (retentionKey .missionCore missionId) with
  | some existing =>
      simp only [hheld, Except.ok.injEq, Prod.mk.injEq] at hobserve
      obtain ⟨-, -, rfl⟩ := hobserve
      exact h
  | none =>
      simp only [hheld, Checked.bind_eq_ok, Checked.pure_eq_ok, Prod.mk.injEq] at hobserve
      obtain ⟨next, hput, -, -, rfl⟩ := hobserve
      obtain ⟨-, -, rfl⟩ := putRecord_eq_ok.mp hput
      have hnone : start.get? (retentionKey .missionCore missionId) = none := by
        cases hfound : start.get? (retentionKey .missionCore missionId) with
        | none => rfl
        | some held =>
            obtain ⟨record, hrecord⟩ := h.kept _ held hfound
            cases hheld.symm.trans hrecord
      refine ⟨fun key held hfound => ?_, fun key record hrecord => ?_⟩
      · obtain ⟨record, hrecord⟩ := h.kept key held hfound
        rw [Dict.get?_set]
        split
        · exact ⟨_, rfl⟩
        · exact ⟨record, hrecord⟩
      · rw [Dict.get?_set] at hrecord
        split at hrecord
        · rename_i hsame
          obtain rfl := Option.some.inj hrecord
          have hfound : start.get? key = none := by
            rw [hsame]
            exact hnone
          rw [hfound]
          exact ⟨fun held h => (by cases h), fun _ => rfl,
            fun h => (by cases h), fun h => (by cases h)⟩
        · exact h.records key record hrecord

theorem onward_observeMission
    {missions : Document} {seen : Observation} (missionId : String)
    (h : Onward call start seen.records) : Onward call start
      (observeMission missions call.now seen missionId).records := by
  unfold observeMission
  split
  · exact h
  · split
    · exact h
    · unfold observeEligible
      split
      · exact h
      · rename_i record created records hobserve
        exact h.observe hobserve

theorem onward_observeAll (call : PassCall) (start : RetentionDocument) (missions : Document) :
    Onward call start (observeAll start missions call.now).records := by
  have hfold : ∀ (missionIds : List String) (seen : Observation), Onward call start seen.records →
      Onward call start
        (missionIds.foldl (observeMission missions call.now) seen).records := by
    intro missionIds
    induction missionIds with
    | nil => exact fun seen h => h
    | cons missionId rest ih =>
        intro seen h
        exact ih _ (onward_observeMission missionId h)
  exact hfold _ _ (Onward.refl call start)

/-- A withdrawn deletion leaves its record as it was found. -/
theorem Onward.withdraw (h : Onward call start records) (key : String) :
    Onward call start (withoutIntent key (start.get? key) records) := by
  unfold withoutIntent
  cases hfound : start.get? key with
  | none =>
      refine ⟨fun other held hother => ?_, fun other record hother => ?_⟩
      · obtain ⟨record, hrecord⟩ := h.kept other held hother
        refine ⟨record, ?_⟩
        dsimp only
        rw [Dict.get?_erase, if_neg fun hsame => ?_]
        · exact hrecord
        · rw [hsame, hfound] at hother
          cases hother
      · dsimp only at hother
        rw [Dict.get?_erase] at hother
        split at hother
        · cases hother
        · exact h.records other record hother
  | some held =>
      refine ⟨fun other old hother => ?_, fun other record hother => ?_⟩
      · dsimp only
        rw [Dict.get?_set]
        split
        · exact ⟨held, rfl⟩
        · exact h.kept other old hother
      · dsimp only at hother
        rw [Dict.get?_set] at hother
        split at hother
        · rename_i hsame
          obtain rfl := Option.some.inj hother
          rw [hsame, hfound]
          exact GoesOn.refl call held
        · exact h.records other record hother

end DodgingInfinity.Retention
