import Mathlib.Logic.Basic
import Mathlib.Data.List.Basic

/-!
# A durable mark and a working copy of it

One process works on a copy of a durable value: it reads the value into the
copy, works while the copy is unmarked, and writes the whole copy back.  Another
process marks the durable value at any time.  A write-back of a copy that was
read before the mark takes the mark away again.
-/

namespace DodgingInfinity

universe u

namespace WorkingCopy

variable {μ : Type u}

/-- The durable mark and the one the working copy carries. -/
structure State (μ : Type u) where
  durable : Option μ
  copy : Option μ

inductive Act where
  | reads
  | writes
  | marks
  | works
  | idles
  deriving DecidableEq

inductive Step : State μ → Act → State μ → Prop
  | reads (state : State μ) :
      Step state .reads ⟨state.durable, state.durable⟩
  | writes (state : State μ) : Step state .writes ⟨state.copy, state.copy⟩
  | marks (state : State μ) (mark : μ) :
      Step state .marks ⟨some mark, state.copy⟩
  | works (state : State μ) (h : state.copy = none) : Step state .works state
  | idles (state : State μ) : Step state .idles state

/-- One step of a run, with the durable mark around it. -/
structure Moment (μ : Type u) where
  before : Option μ
  act : Act
  after : Option μ

inductive Run (start : State μ) : List (Moment μ) → State μ → Prop
  | start : Run start [] start
  | step {trace : List (Moment μ)} {state next : State μ} {act : Act}
      (hrun : Run start trace state) (hstep : Step state act next) :
      Run start (trace ++ [⟨state.durable, act, next.durable⟩]) next

/-! ## Histories -/

/-- Every moment of a trace, with what came before it. -/
def Always (p : List (Moment μ) → Moment μ → Prop) (trace : List (Moment μ)) : Prop :=
  ∀ before moment after, trace = before ++ moment :: after → p before moment

theorem always_nil (p : List (Moment μ) → Moment μ → Prop) : Always p [] := by
  intro before moment after h
  simp at h

theorem always_snoc (p : List (Moment μ) → Moment μ → Prop)
    (trace : List (Moment μ)) (last : Moment μ) :
    Always p (trace ++ [last]) ↔ Always p trace ∧ p trace last := by
  constructor
  · intro h
    refine ⟨fun before moment after hsplit => ?_, h trace last [] rfl⟩
    exact h before moment (after ++ [last]) (by simp [hsplit])
  · rintro ⟨hleading, hlast⟩ before moment after hsplit
    rcases List.eq_nil_or_concat after with rfl | ⟨rest, final, rfl⟩
    · obtain ⟨rfl, hsame⟩ := List.append_inj' hsplit rfl
      rw [← (List.cons.inj hsame).1]
      exact hlast
    · have hassoc : trace ++ [last] = (before ++ moment :: rest) ++ [final] := by
        simpa using hsplit
      exact hleading before moment rest (List.append_inj' hassoc rfl).1

/-- Some moment marked the durable value. -/
def Marked (trace : List (Moment μ)) : Prop :=
  ∃ moment ∈ trace, moment.act = .marks

theorem marked_snoc (trace : List (Moment μ)) (last : Moment μ) :
    Marked (trace ++ [last]) ↔ Marked trace ∨ last.act = .marks := by
  simp [Marked, or_and_right, exists_or]

/-- Some read came after a mark. -/
def Noticed (trace : List (Moment μ)) : Prop :=
  ¬ Always (fun before moment => ¬ (moment.act = .reads ∧ Marked before)) trace

theorem not_noticed_nil : ¬ Noticed ([] : List (Moment μ)) :=
  fun h => h (always_nil _)

theorem noticed_snoc (trace : List (Moment μ)) (last : Moment μ) : Noticed (trace ++ [last]) ↔
      Noticed trace ∨ (last.act = .reads ∧ Marked trace) := by
  unfold Noticed
  rw [always_snoc, not_and_or, not_not]

/-- Once marked, the durable value stays marked. -/
def StaysMarked (trace : List (Moment μ)) : Prop :=
  Always (fun before moment => Marked (before ++ [moment]) → moment.after ≠ none) trace

/-- Once a read came after a mark, no work is done. -/
def StopsWork (trace : List (Moment μ)) : Prop :=
  Always (fun before moment => Noticed before → moment.act ≠ .works) trace

/-- No mark is lost: it stays, and from the next read on it stops the work. -/
def Kept (trace : List (Moment μ)) : Prop :=
  StaysMarked trace ∧ StopsWork trace

variable {trace : List (Moment μ)}

/-- A trace that ends unmarked after a mark has lost it. -/
theorem not_kept_of_getLast? {last : Moment μ}
    (hlast : trace.getLast? = some last) (hafter : last.after = none)
    (hmarked : Marked trace) : ¬ Kept trace := by
  obtain ⟨before, rfl⟩ := List.getLast?_eq_some_iff.mp hlast
  intro hkept
  exact hkept.1 before last [] rfl hmarked hafter

/-- Whether the copy is older than the first mark, after one more moment. -/
def outdates (outdated : Bool) (moment : Moment μ) : Bool :=
  match moment.act with
  | .marks => outdated || moment.before.isNone
  | .reads => false
  | .writes | .works | .idles => outdated

/-- The copy was last read before the mark that first marked the value. -/
def outdated (trace : List (Moment μ)) : Bool :=
  trace.foldl outdates false

/-- The copy is never written back while it is older than the first mark: a
read comes in between. -/
def Heeded (trace : List (Moment μ)) : Prop :=
  Always (fun before moment => moment.act = .writes → outdated before = false) trace

theorem outdated_snoc (trace : List (Moment μ)) (last : Moment μ) :
    outdated (trace ++ [last]) = outdates (outdated trace) last := by
  simp [outdated]

/-! ## What every run keeps -/

/-- A marked copy was read from a marked value, and an outdated one is not
marked though a mark has come. -/
structure Tracks (trace : List (Moment μ)) (state : State μ) : Prop where
  known : state.copy ≠ none → state.durable ≠ none
  unaware : outdated trace = true → state.copy = none ∧ Marked trace

variable {state next : State μ} {act : Act}

theorem Tracks.step (h : Tracks trace state) (hstep : Step state act next) :
    Tracks (trace ++ [⟨state.durable, act, next.durable⟩]) next := by
  cases hstep with
  | reads =>
      refine ⟨id, fun houtdated => ?_⟩
      simp [outdated_snoc, outdates] at houtdated
  | writes =>
      refine ⟨id, fun houtdated => ?_⟩
      rw [outdated_snoc] at houtdated
      obtain ⟨hcopy, hmarked⟩ := h.unaware houtdated
      exact ⟨hcopy, (marked_snoc ..).mpr (.inl hmarked)⟩
  | marks mark =>
      refine ⟨fun _ => Option.some_ne_none mark, fun houtdated => ?_⟩
      refine ⟨?_, (marked_snoc ..).mpr (.inr rfl)⟩
      simp only [outdated_snoc, outdates, Bool.or_eq_true, Option.isNone_iff_eq_none] at houtdated
      rcases houtdated with hbefore | hfirst
      · exact (h.unaware hbefore).1
      · exact not_not.mp fun hcopy => h.known hcopy hfirst
  | works hcopy =>
      refine ⟨h.known, fun houtdated => ?_⟩
      rw [outdated_snoc] at houtdated
      obtain ⟨hnone, hmarked⟩ := h.unaware houtdated
      exact ⟨hnone, (marked_snoc ..).mpr (.inl hmarked)⟩
  | idles =>
      refine ⟨h.known, fun houtdated => ?_⟩
      rw [outdated_snoc] at houtdated
      obtain ⟨hnone, hmarked⟩ := h.unaware houtdated
      exact ⟨hnone, (marked_snoc ..).mpr (.inl hmarked)⟩

variable {start : State μ}

theorem Run.tracks (h : Run start trace state) (hstart : start.copy = start.durable) :
    Tracks trace state := by
  induction h with
  | start => exact ⟨fun hcopy => hstart ▸ hcopy, fun h => by cases h⟩
  | step _ hstep ih => exact ih.step hstep

/-- Where every mark is heeded, a marked value has a marked copy unless the copy
is outdated, a mark that came is there, and one that was read is in the copy. -/
structure Heeds (trace : List (Moment μ)) (state : State μ) : Prop where
  aware : state.durable ≠ none → outdated trace = true ∨ state.copy ≠ none
  marked : Marked trace → state.durable ≠ none
  noticed : Noticed trace → state.copy ≠ none

theorem Heeds.step
    (h : Heeds trace state) (htracks : Tracks trace state) (hstep : Step state act next)
    (hheeded : act = .writes → outdated trace = false) :
    Heeds (trace ++ [⟨state.durable, act, next.durable⟩]) next := by
  have hmarked : Marked (trace ++ [⟨state.durable, act, next.durable⟩]) →
      Marked trace ∨ act = .marks := (marked_snoc ..).mp
  have hnoticed : Noticed (trace ++ [⟨state.durable, act, next.durable⟩]) →
      Noticed trace ∨ (act = .reads ∧ Marked trace) := (noticed_snoc ..).mp
  cases hstep with
  | reads =>
      refine ⟨.inr, fun hlater => ?_, fun hlater => ?_⟩
      · exact h.marked ((hmarked hlater).resolve_right fun hother => by cases hother)
      · rcases hnoticed hlater with hbefore | ⟨-, hbefore⟩
        · exact htracks.known (h.noticed hbefore)
        · exact h.marked hbefore
  | writes =>
      have hfresh : state.durable ≠ none → state.copy ≠ none := fun hdurable =>
        (h.aware hdurable).resolve_left (by simp [hheeded rfl])
      refine ⟨.inr, fun hlater => ?_, fun hlater => ?_⟩
      · exact hfresh (h.marked ((hmarked hlater).resolve_right fun hother => by cases hother))
      · exact h.noticed ((hnoticed hlater).resolve_right fun hother => by cases hother.1)
  | marks mark =>
      refine ⟨fun _ => ?_, fun _ => Option.some_ne_none mark, fun hlater => ?_⟩
      · rw [outdated_snoc]
        by_cases hdurable : state.durable = none
        · exact .inl (by simp [outdates, hdurable])
        · exact (h.aware hdurable).imp_left fun hbefore => by
            simp [outdates, hbefore]
      · exact h.noticed ((hnoticed hlater).resolve_right fun hother => by cases hother.1)
  | works hcopy =>
      refine ⟨fun hdurable => ?_, fun hlater => ?_, fun hlater => ?_⟩
      · rw [outdated_snoc]
        exact h.aware hdurable
      · exact h.marked ((hmarked hlater).resolve_right fun hother => by cases hother)
      · exact h.noticed ((hnoticed hlater).resolve_right fun hother => by cases hother.1)
  | idles =>
      refine ⟨fun hdurable => ?_, fun hlater => ?_, fun hlater => ?_⟩
      · rw [outdated_snoc]
        exact h.aware hdurable
      · exact h.marked ((hmarked hlater).resolve_right fun hother => by cases hother)
      · exact h.noticed ((hnoticed hlater).resolve_right fun hother => by cases hother.1)

/-- A heeded run keeps every mark. -/
theorem Run.kept (h : Run start trace state) (hstart : start.copy = start.durable)
    (hheeded : Heeded trace) : Heeds trace state ∧ Kept trace := by
  induction h with
  | start =>
      refine ⟨⟨fun hdurable => .inr (hstart ▸ hdurable), fun hmarked => ?_,
        fun hnoticed => absurd hnoticed not_noticed_nil⟩, always_nil _, always_nil _⟩
      obtain ⟨moment, hmoment, -⟩ := hmarked
      cases hmoment
  | @step trace state next act hrun hstep ih =>
      obtain ⟨hbefore, hlast⟩ := (always_snoc ..).mp hheeded
      obtain ⟨hheeds, hstays, hstops⟩ := ih hbefore
      have hnext := hheeds.step (hrun.tracks hstart) hstep hlast
      refine ⟨hnext, (always_snoc ..).mpr ⟨hstays, hnext.marked⟩,
        (always_snoc ..).mpr ⟨hstops, fun hnoticed hworks => ?_⟩⟩
      cases hstep with
      | works hcopy => exact hheeds.noticed hnoticed hcopy
      | _ => cases hworks

/-- A run that keeps every mark heeds every mark: the first outdated copy that
is written back takes a mark away. -/
theorem Run.heeded (h : Run start trace state) (hstart : start.copy = start.durable)
    (hkept : Kept trace) : Heeded trace := by
  induction h with
  | start => exact always_nil _
  | @step trace state next act hrun hstep ih =>
      obtain ⟨hstays, hlast⟩ := (always_snoc ..).mp hkept.1
      obtain ⟨hstops, -⟩ := (always_snoc ..).mp hkept.2
      refine (always_snoc ..).mpr ⟨ih ⟨hstays, hstops⟩, fun hwrites => ?_⟩
      by_contra houtdated
      have htracks := hrun.tracks hstart
      obtain ⟨hcopy, hmarked⟩ := htracks.unaware (by simpa using houtdated)
      have hafter := hlast ((marked_snoc ..).mpr (.inl hmarked))
      cases hstep with
      | writes => exact hafter hcopy
      | _ => cases hwrites

/-- No mark is lost exactly in the runs where every first mark is read before
the copy is written back. -/
theorem Run.kept_iff
    (h : Run start trace state) (hstart : start.copy = start.durable) : Kept trace ↔ Heeded trace :=
  ⟨h.heeded hstart, fun hheeded => (h.kept hstart hheeded).2⟩

end WorkingCopy

end DodgingInfinity
