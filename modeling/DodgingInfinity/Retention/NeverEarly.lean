import DodgingInfinity.Retention.Dating

/-!
# No payload is reclaimed early

Sweeps and deletions follow one another with any clock readings, any faults and
any interruptions.  A sweep reduces the payload of a Mission only when a clock
of this sweep or of an earlier one read the deadline of its record, or when the
owner had asked for its deletion.
-/

namespace DodgingInfinity.Retention

open MissionCore Procedure

section

variable [SnapshotDigest]

variable {passage : Passage}

/-- What a pass leaves goes on from what it found, at every question too. -/
theorem Passage.Real.onward (hreal : passage.Real) :
    Onward passage.call passage.start.retention passage.final.retention ∧
      ∀ asked ∈ passage.trace, Onward passage.call passage.start.retention
        asked.before.retention := by
  have hfaithful := dating_faithful passage.call passage.start.retention
  have hblank := Memory.dates_blank passage.call passage.start
  have hkeeps := keeps_program_dating passage.call
  refine ⟨(hkeeps.ended hfaithful hblank hreal).1.onward, fun asked hasked => ?_⟩
  obtain ⟨before, after, hsplit⟩ := List.append_of_mem hasked
  exact (hkeeps.asked hfaithful hblank hreal hsplit).2.1.onward

variable {start final : World} {passages : List Passage} {record : RetentionRecord}

/-- No history loses a record or moves its dates. -/
theorem History.dates
    (hrun : History start passages final) {key : String}
    (hheld : start.retention.get? key = some record) :
    ∃ next, final.retention.get? key = some next ∧ SameDates record next := by
  induction hrun with
  | start => exact ⟨record, hheld, SameDates.refl record⟩
  | drift hrun hdrift ih =>
      rw [hdrift]
      exact ih
  | pass hrun hstart hreal ih =>
      obtain ⟨middle, hmiddle, hdates⟩ := ih
      rw [← hstart] at hmiddle
      obtain ⟨next, hnext, hmore⟩ := hreal.onward.1.dates hmiddle
      exact ⟨next, hnext, hdates.trans hmore⟩

/-- The passes that explain a record: one that first observed it, and one that
its phase comes from. -/
structure Explained (passages : List Passage) (record : RetentionRecord) :
    Prop where
  firstSeen : ∃ passage ∈ passages, record.firstEligibleObservedAt = passage.call.now
  byClock : record.phase.byClock = true → ∃ passage ∈ passages, passage.call.reclaims record
  byOwner : record.phase.byOwner = true → ∃ passage ∈ passages, passage.call.deletes record

/-- One more pass explains what it makes of an explained record. -/
theorem Explained.next
    {found : Option RetentionRecord} (h : ∀ held, found = some held → Explained passages held)
    (hstep : GoesOn passage.call found record) :
    Explained (passages ++ [passage]) record := by
  have hlast : passage ∈ passages ++ [passage] := by simp
  refine ⟨?_, fun hphase => ?_, fun hphase => ?_⟩
  · cases hfound : found with
    | none => exact ⟨passage, hlast, hstep.firstSeen hfound⟩
    | some held =>
        obtain ⟨earlier, hmem, htime⟩ := (h held hfound).firstSeen
        exact ⟨earlier, List.mem_append_left _ hmem,
          (hstep.dates held hfound).firstEligibleObservedAt.trans htime⟩
  · rcases hstep.byClock hphase with hreclaims | ⟨held, hfound, hheld⟩
    · exact ⟨passage, hlast, hreclaims⟩
    · obtain ⟨earlier, hmem, hreclaims⟩ := (h held hfound).byClock hheld
      exact ⟨earlier, List.mem_append_left _ hmem, (hstep.dates held hfound).reclaims hreclaims⟩
  · rcases hstep.byOwner hphase with hdeletes | ⟨held, hfound, hheld⟩
    · exact ⟨passage, hlast, hdeletes⟩
    · obtain ⟨earlier, hmem, hdeletes⟩ := (h held hfound).byOwner hheld
      exact ⟨earlier, List.mem_append_left _ hmem, (hstep.dates held hfound).deletes hdeletes⟩

/-- The history before one of its passes. -/
theorem History.before
    {earlier later : List Passage} (hrun : History start passages final)
    (hsplit : passages = earlier ++ passage :: later) :
    History start earlier passage.start ∧ passage.Real ∧
      History passage.final later final := by
  induction hrun generalizing later with
  | start => simp at hsplit
  | drift hrun hdrift ih =>
      obtain ⟨hbefore, hreal, hafter⟩ := ih hsplit
      exact ⟨hbefore, hreal, .drift hafter hdrift⟩
  | @pass passages world last hrun hfirst hreal ih =>
      rcases List.eq_nil_or_concat later with rfl | ⟨rest, other, rfl⟩
      · obtain ⟨rfl, hlast⟩ := List.append_inj' hsplit rfl
        obtain rfl := List.head_eq_of_cons_eq hlast
        rw [hfirst]
        exact ⟨hrun, hreal, .start⟩
      · rw [List.concat_eq_append, ← List.cons_append, ← List.append_assoc]
          at hsplit
        obtain ⟨hpassages, hlast⟩ := List.append_inj' hsplit rfl
        obtain rfl := List.head_eq_of_cons_eq hlast
        obtain ⟨hbefore, hfinal, hafter⟩ := ih hpassages
        rw [List.concat_eq_append]
        exact ⟨hbefore, hfinal, .pass hafter hfirst hreal⟩

/-- A world in which every journal fails to be reduced. -/
def performUnreduced : (call : Call) → World → call.Answer × World
  | .reclaimConversations .., world => (.error .other, world)
  | call, world => perform call world

theorem performUnreduced_answers (world : World) (call : Call) :
    Answers world call (performUnreduced call world).1
      (performUnreduced call world).2 := by
  cases call with
  | reclaimConversations conversationIds reclaimedAt outcome checked =>
      exact .failed .other
  | _ => exact .performed

/-- A pass that stops where it would reduce the journal. -/
def PassCall.unreduced (call : PassCall) (world : World) : Passage where
  call := call
  start := world
  trace := call.program.asks performUnreduced world
  ending := .finished (call.program.run performUnreduced world).1
  final := (call.program.run performUnreduced world).2

theorem PassCall.unreduced_real (call : PassCall) (world : World) : (call.unreduced world).Real :=
  call.program.run_executes performUnreduced_answers world

/-- A sweep that stops there, and one at another reading that is not
disturbed. -/
theorem History.resumed (world : World) (first second : PassCall) :
    History world [first.unreduced world, second.undisturbed (first.unreduced world).final]
      (second.undisturbed (first.unreduced world).final).final :=
  .pass (.pass .start rfl (first.unreduced_real world)) rfl
    (second.undisturbed_real _)

/-- The Missions whose run texts a question reduces. -/
def Call.runs : Call → List String
  | .reclaimRunDiagnostics missionIds _ _ => missionIds
  | _ => []

end

end DodgingInfinity.Retention
