import DodgingInfinity.PrDelivery.Delivered

/-!
# Effects under their receipts

Every effect of the machine is asked for while the store holds an executing
receipt of its step that was read again since, so that the guard of the git
hooks lets it through.
-/

namespace DodgingInfinity.PrDelivery

/-! ## The guard -/

/-- What a hook observes is what the receipt is bound to. -/
structure LiveFacts.Agrees (live : LiveFacts) (receipt : Receipt)
    (fields : List String) : Prop where
  facts : ∀ field ∈ fields, live.facts.get? field = receipt.binding.field field
  parents : ∀ binding parents, receipt.binding = .commit binding →
    live.proposedParents = some parents → parents = some [binding.headBefore]

theorem isSome_field {binding : Binding} {fields : List String}
    (hfields : liveFactFields binding.step = some fields) :
    ∀ field ∈ fields, (binding.field field).isSome = true := by
  cases binding with
  | prCreate binding => cases hfields
  | _ =>
      cases hfields
      simp [Binding.field, Binding.fields, List.lookup_cons]

variable {live : LiveFacts} {receipt : Receipt}

theorem requireBinding_of_agrees
    {step : Step} {fields : List String} (hstep : receipt.binding.step = step)
    (hfields : liveFactFields step = some fields) (h : live.Agrees receipt fields) :
    requireBinding receipt live fields = .ok () := by
  have hnone : bindingMismatch receipt live fields = none := by
    refine List.find?_eq_none.mpr fun field hfield => ?_
    have hsome := isSome_field (hstep ▸ hfields) field hfield
    rw [h.facts field hfield]
    cases hheld : receipt.binding.field field with
    | none => simp [hheld] at hsome
    | some value => simp
  rw [requireBinding, hnone]

variable {record : Record}

theorem requireProposedParents_of_agrees {fields : List String} (h : live.Agrees receipt fields) :
    requireProposedParents record receipt live = .ok () := by
  unfold requireProposedParents
  split
  · rename_i binding parents _ hbinding hparents
    rw [h.parents binding parents hbinding hparents, Checked.failIf_eq_ok]
    simp
  · rfl

theorem executingReceiptsFor_append (first second : List Record) (repoRoot : String) (step : Step) :
    executingReceiptsFor (first ++ second) repoRoot step =
      executingReceiptsFor first repoRoot step ++
        executingReceiptsFor second repoRoot step := by
  simp [executingReceiptsFor]

theorem executingReceipt_eq {step : Step} (h : executingReceipt record step = some receipt) :
    (record.steps.get step).receipt = some receipt := by
  unfold executingReceipt at h
  split at h
  · exact (Option.filter_eq_some_iff.mp h).1
  · cases h

/-- No other delivery of the repository holds an executing receipt of the
step. -/
def Alone (others : List Record) (repoRoot : String) (step : Step) : Prop :=
  executingReceiptsFor others repoRoot step = []

section

variable [JsonDigest]

variable {step : Step}

omit [JsonDigest] in
theorem WriteAhead.goesOn {site : Site} (h : WriteAhead site step)
    (hfree : isRevoked site.stored = false) :
    site.stored.phase ∉ terminalPhases := by
  obtain ⟨fresh, now, ⟨-, -, hsynced⟩, hgoes, -⟩ := h.rechecked
  rcases hsynced.phase with hphase | hrevoked
  · exact hphase ▸ hgoes
  · rw [hfree] at hrevoked
    cases hrevoked

/-- The guard lets an effect through that is asked for under its receipt. -/
theorem WriteAhead.allowed_by_guard {authority : Authority} {site : Site} {fields : List String}
    {before after : List Record}
    {receipt : Receipt} {live : LiveFacts} {now : Time}
    (h : WriteAhead site step) (hsound : Sound authority site)
    (hfields : liveFactFields step = some fields)
    (hreceipt : executingReceipt site.stored step = some receipt)
    (hlive : live.Agrees receipt fields) (hfree : isRevoked site.stored = false)
    (hfresh : isExpired site.stored now = false)
    (halone : Alone (before ++ after) authority.repository.realpath step) :
    guardDecision (before ++ site.stored :: after)
      authority.repository.realpath step live now = .ok receipt := by
  have hown : executingReceiptsFor [site.stored]
      authority.repository.realpath step = [(site.stored, receipt)] := by
    simp [executingReceiptsFor, hsound.authority, h.goesOn hfree, hreceipt]
  have hfound : executingReceiptsFor (before ++ site.stored :: after)
      authority.repository.realpath step = [(site.stored, receipt)] := by
    rw [Alone, executingReceiptsFor_append, List.append_eq_nil_iff] at halone
    rw [List.append_cons, executingReceiptsFor_append,
      executingReceiptsFor_append, halone.1, halone.2, hown]
    rfl
  obtain ⟨-, -, hstep, -⟩ := hsound.validReceipt (executingReceipt_eq hreceipt)
  simp only [guardDecision, hfields, hfound, judgeReceipt, Checked.bind_eq_ok,
    Checked.exists_passed, Checked.failIf_eq_ok, Checked.pure_eq_ok, not_not,
    hfree, hfresh, and_true]
  exact ⟨by simp, by simp, h.allowed, requireBinding_of_agrees hstep hfields hlive,
    requireProposedParents_of_agrees hlive⟩

/-! ## Every effect -/

variable [FramedDigest]

/-- In every run from a minted record, whatever is answered and wherever it is
cut off, an effect that does not repeat a failed ref move is asked for under an
executing receipt of its step that was read again since it was stored; and the
guard of its hook, if it has one, lets it through as long as the record is
neither revoked nor expired since and no other delivery of the repository is
about the same step. -/
theorem effect_write_ahead {authority : Authority} {now : Time}
    {others : List Record} {trace : List (Asked Call Call.Answer Site)}
    {final : Site} {asked : Asked Call Call.Answer Site} {verb : Verb}
    (hminted : validateAuthorization (newAuthorization authority now) = .ok ())
    (hrun : Sessions (delivering fun _ => True) IsAdvance
      ⟨newAuthorization authority now, others, []⟩ trace final)
    (hasked : asked ∈ trace) (hverb : asked.question = .transport verb)
    (heffect : verb.step = some step) (hfirst : ¬ Repeats asked.before verb) :
    WriteAhead asked.before step ∧ ∀ fields receipt live before after moment,
        liveFactFields step = some fields →
        executingReceipt asked.before.stored step = some receipt → live.Agrees receipt fields →
        isRevoked asked.before.stored = false → isExpired asked.before.stored moment = false →
        Alone (before ++ after) authority.repository.realpath step →
        guardDecision (before ++ asked.before.stored :: after)
          authority.repository.realpath step live moment = .ok receipt := by
  obtain ⟨-, hallowed⟩ := conduct_sessions hminted hrun
  obtain ⟨hconduct, -⟩ := hallowed asked hasked
  rw [hverb] at hconduct
  obtain ⟨hsound, hrule⟩ := hconduct
  have hahead := (hrule step heffect).resolve_right hfirst
  exact ⟨hahead, fun fields receipt live before after moment hfields hreceipt
    hlive hfree hfresh halone => hahead.allowed_by_guard hsound hfields hreceipt
      hlive hfree hfresh halone⟩

end

/-! ## Next to another delivery -/

theorem sampleRivals_committing :
    (executingReceiptsFor sampleRivals "/work/project" .commit).length = 2 := by
  decide +kernel

theorem sampleRivals_alone : Alone sampleRivals "/work/project" .push :=
  List.eq_nil_of_length_eq_zero (by decide +kernel)

theorem guardDecision_ambiguous {others : List Record}
    {repoRoot : String} {now : Time}
    (h : (executingReceiptsFor others repoRoot .commit).length = 2) :
    guardDecision (record :: others) repoRoot .commit live now =
      .error .ambiguous := by
  have happend := executingReceiptsFor_append [record] others repoRoot .commit
  obtain ⟨first, second, hothers⟩ := List.length_eq_two.mp h
  rw [hothers] at happend
  unfold guardDecision
  rw [List.singleton_append] at happend
  rw [happend]
  cases executingReceiptsFor [record] repoRoot .commit with
  | nil => rfl
  | cons head rest => cases rest <;> rfl

/-- Some commit is asked for that the guard of its hook refuses whatever the
hook observes: other deliveries of the repository are about to commit too. -/
theorem effect_write_ahead_refuted : letI := sampleJsonDigest
    letI := sampleFramedDigest
    ¬ ∀ (authority : Authority) (now : Time) (others : List Record)
      (trace : List (Asked Call Call.Answer Site)) (final : Site),
      validateAuthorization (newAuthorization authority now) = .ok () →
      Sessions (delivering fun _ => True) IsAdvance
        ⟨newAuthorization authority now, others, []⟩ trace final →
      ∀ asked ∈ trace, ∀ verb step, asked.question = .transport verb → verb.step = some step →
        WriteAhead asked.before step ∧ ∃ live moment receipt,
          guardDecision (asked.before.stored :: asked.before.others)
            authority.repository.realpath step live moment = .ok receipt := by
  let _ := sampleJsonDigest
  let _ := sampleFramedDigest
  intro hclaim
  obtain ⟨trace, final, hrun, -, hothers, ⟨asked, hasked, hcommit⟩, -⟩ :=
    sampleUpdated_run
  obtain ⟨-, live, moment, receipt, hguard⟩ := hclaim _ _ _ trace final
    sampleUpdate_minted hrun asked hasked .commit .commit hcommit rfl
  have hrefused : guardDecision (asked.before.stored :: sampleRivals)
      sampleUpdateAuthority.repository.realpath .commit live moment =
        .error .ambiguous :=
    guardDecision_ambiguous sampleRivals_committing
  rw [hothers asked hasked, hrefused] at hguard
  cases hguard

/-- The push of the sample update is under its receipt, and the guard lets it
through next to the two commits. -/
theorem effect_write_ahead_sample : letI := sampleJsonDigest
    letI := sampleFramedDigest
    ∃ asked : Asked Call Call.Answer Site,
      asked.question = .transport samplePush ∧ WriteAhead asked.before .push ∧
      ∀ fields receipt live moment, liveFactFields .push = some fields →
        executingReceipt asked.before.stored .push = some receipt → live.Agrees receipt fields →
        isRevoked asked.before.stored = false → isExpired asked.before.stored moment = false →
        guardDecision (asked.before.stored :: asked.before.others)
          "/work/project" .push live moment = .ok receipt := by
  let _ := sampleJsonDigest
  let _ := sampleFramedDigest
  obtain ⟨trace, final, hrun, -, hothers, -, ⟨asked, hasked, hpush⟩⟩ :=
    sampleUpdated_run
  have hfirst : ¬ Repeats asked.before samplePush := by
    rintro ⟨⟨ref, newOid, oldOid, hverb⟩, -⟩
    cases hverb
  obtain ⟨hahead, hguard⟩ :=
    effect_write_ahead sampleUpdate_minted hrun hasked hpush rfl hfirst
  refine ⟨asked, hpush, hahead, fun fields receipt live moment hfields hreceipt
    hlive hfree hfresh => ?_⟩
  rw [hothers asked hasked]
  exact hguard fields receipt live [] sampleRivals moment hfields hreceipt hlive
    hfree hfresh sampleRivals_alone

end DodgingInfinity.PrDelivery
