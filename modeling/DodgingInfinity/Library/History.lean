import DodgingInfinity.Library.Calls

/-!
# Histories

A world that remembers every question it was asked, and what it answered.  What
a program asks is then allowed by all that came before, and not by the state
of its world alone.  Remembering takes nothing away: every execution, and every
run of calls, is one of the world that remembers.
-/

namespace DodgingInfinity

universe u

variable {Question : Type u} {Answer : Question → Type u} {World α : Type u}

/-- A question with what it was answered. -/
abbrev Heard (Question : Type u) (Answer : Question → Type u) : Type u :=
  (question : Question) × Answer question

/-- A world and what it was asked so far, the latest first. -/
abbrev Remembering (Question : Type u) (Answer : Question → Type u) (World : Type u) : Type u :=
  World × List (Heard Question Answer)

def Asked.heard (asked : Asked Question Answer World) : Heard Question Answer :=
  ⟨asked.question, asked.answer⟩

/-- What a trace leaves to remember. -/
def historyOf (trace : List (Asked Question Answer World)) : List (Heard Question Answer) :=
  (trace.map Asked.heard).reverse

theorem historyOf_append (before after : List (Asked Question Answer World)) :
    historyOf (before ++ after) = historyOf after ++ historyOf before := by
  simp [historyOf]

theorem historyOf_cons (asked : Asked Question Answer World)
    (trace : List (Asked Question Answer World)) :
    historyOf (asked :: trace) = historyOf trace ++ [asked.heard] := by
  simp [historyOf]

/-- The same surroundings, of a world that remembers. -/
def Surroundings.remembering (surroundings : Surroundings Question Answer World) :
    Surroundings Question Answer (Remembering Question Answer World) where
  answers now question answer next :=
    surroundings.answers now.1 question answer next.1 ∧ next.2 = ⟨question, answer⟩ :: now.2
  drifts now next := surroundings.drifts now.1 next.1 ∧ next.2 = now.2

/-- A trace with what was remembered at each of its questions. -/
def rememberedFrom (past : List (Heard Question Answer)) : List (Asked Question Answer World) →
      List (Asked Question Answer (Remembering Question Answer World))
  | [] => []
  | asked :: trace =>
      ⟨(asked.before, past), asked.question, asked.answer, (asked.after, asked.heard :: past)⟩ ::
        rememberedFrom (asked.heard :: past) trace

theorem rememberedFrom_append (past : List (Heard Question Answer))
    (before after : List (Asked Question Answer World)) : rememberedFrom past (before ++ after) =
      rememberedFrom past before ++ rememberedFrom (historyOf before ++ past) after := by
  induction before generalizing past with
  | nil => rfl
  | cons asked before ih =>
      simp only [List.cons_append, rememberedFrom, ih, historyOf_cons, List.append_assoc,
        List.nil_append]

/-- Each question of a trace, with all that was heard before it. -/
theorem mem_rememberedFrom (past : List (Heard Question Answer))
    (before after : List (Asked Question Answer World)) (asked : Asked Question Answer World) :
    ⟨(asked.before, historyOf before ++ past), asked.question, asked.answer,
      (asked.after, asked.heard :: (historyOf before ++ past))⟩ ∈
        rememberedFrom past (before ++ asked :: after) := by
  rw [rememberedFrom_append]
  exact List.mem_append_right _ List.mem_cons_self

variable {surroundings : Surroundings Question Answer World}

theorem Executes.remembering {program : Program Question Answer α} {world final : World}
    {trace : List (Asked Question Answer World)} {ending : Ending α}
    (h : Executes surroundings program world trace ending final)
    (past : List (Heard Question Answer)) :
    Executes surroundings.remembering program (world, past) (rememberedFrom past trace)
      ending (final, historyOf trace ++ past) := by
  induction h generalizing past with
  | done value world => exact .done value _
  | cutOff program world => exact .cutOff program _
  | @drift program world next final trace ending hdrift hrest ih =>
      have hnow : surroundings.remembering.drifts (world, past) (next, past) := ⟨hdrift, rfl⟩
      exact .drift hnow (ih past)
  | @ask question follow world next final answer trace ending hanswer hrest ih =>
      have hnow : surroundings.remembering.answers (world, past) question answer
          (next, ⟨question, answer⟩ :: past) := ⟨hanswer, rfl⟩
      have hlater := ih (⟨question, answer⟩ :: past)
      have hended : historyOf (⟨world, question, answer, next⟩ :: trace) ++ past =
          historyOf trace ++ ⟨question, answer⟩ :: past := by
        simp [historyOf_cons, Asked.heard]
      rw [hended]
      exact .ask hnow hlater

variable {others : World → World → Prop} {starts : Program Question Answer α → Prop}
  {origin final : World} {trace : List (Asked Question Answer World)}

/-- What others do, to a world that remembers nothing of it. -/
def unheard (others : World → World → Prop) (now next : Remembering Question Answer World) : Prop :=
  others now.1 next.1 ∧ next.2 = now.2

theorem Calls.remembering (h : Calls surroundings others starts origin trace final) :
    Calls surroundings.remembering (unheard others) starts (origin, [])
      (rememberedFrom [] trace) (final, historyOf trace) := by
  induction h with
  | start => exact .start
  | between hrun hothers ih => exact .between ih ⟨hothers, rfl⟩
  | @call trace asked world final program ending hrun hstarts hexecutes ih =>
      have hcall := hexecutes.remembering (historyOf trace)
      rw [rememberedFrom_append, historyOf_append, List.append_nil]
      exact .call ih hstarts hcall

variable {allows : Remembering Question Answer World → Question → Prop}

/-- What is shown of the runs of the world that remembers holds of every run, with what
was heard before each question. -/
theorem Calls.recalled {ends : Remembering Question Answer World → Prop}
    {asks : Asked Question Answer (Remembering Question Answer World) → Prop}
    (hall : ∀ {trace final}, Calls surroundings.remembering (unheard others) starts
      (origin, []) trace final → ends final ∧ ∀ asked ∈ trace, asks asked)
    (hrun : Calls surroundings others starts origin trace final) :
    ends (final, historyOf trace) ∧ ∀ before asked after, trace = before ++ asked :: after →
        asks ⟨(asked.before, historyOf before), asked.question, asked.answer,
          (asked.after, asked.heard :: historyOf before)⟩ := by
  obtain ⟨hfinal, hasks⟩ := hall hrun.remembering
  refine ⟨hfinal, fun before asked after hsplit => ?_⟩
  have hmem := mem_rememberedFrom [] before after asked
  rw [← hsplit, List.append_nil] at hmem
  exact hasks _ hmem

/-- Every question of all calls was allowed by its world and by what was heard
before it, and what they keep holds at the end. -/
theorem Calls.heard (inv : Remembering Question Answer World → Prop)
    (hsafe : ∀ program world, starts program → inv world →
      program.Safe surroundings.remembering allows (fun _ _ => True) world)
    (hothers : ∀ world next, inv world → unheard others world next → inv next)
    (hdrift : ∀ world next, inv world → surroundings.remembering.drifts world next → inv next)
    (hasked : ∀ world question answer next, inv world → allows world question →
      surroundings.remembering.answers world question answer next → inv next)
    (hrun : Calls surroundings others starts origin trace final) (hinv : inv (origin, [])) :
    inv (final, historyOf trace) ∧ ∀ before asked after, trace = before ++ asked :: after →
        allows (asked.before, historyOf before) asked.question ∧
        surroundings.answers asked.before asked.question asked.answer asked.after := by
  have hall : ∀ {trace final}, Calls surroundings.remembering (unheard others) starts
      (origin, []) trace final → inv final ∧ ∀ asked ∈ trace, allows asked.before asked.question ∧
        surroundings.remembering.answers asked.before asked.question asked.answer
          asked.after := by
    intro trace final hcalls
    induction hcalls with
    | start => exact ⟨hinv, by simp⟩
    | between hrun hlast ih => exact ⟨hothers _ _ ih.1 hlast, ih.2⟩
    | call hrun hstarts hexecutes ih =>
        have hbegun := hsafe _ _ hstarts ih.1
        refine ⟨hbegun.carries hdrift hasked hexecutes ih.1, fun asked hmem => ?_⟩
        rcases List.mem_append.mp hmem with hbefore | hlast
        · exact ih.2 asked hbefore
        · exact hbegun.asked (fun _ _ _ _ _ => trivial) hexecutes asked hlast
  obtain ⟨hfinal, hasks⟩ := hrun.recalled hall
  refine ⟨hfinal, fun before asked after hsplit => ?_⟩
  obtain ⟨hallowed, hanswered⟩ := hasks before asked after hsplit
  exact ⟨hallowed, hanswered.1⟩

/-- What holds wherever something is asked, and at the end of every call, holds at the
end of all calls, however they are cut off. -/
theorem Calls.ended (inv : Remembering Question Answer World → Prop)
    (hsafe : ∀ program world, starts program → inv world →
      program.Safe surroundings.remembering allows (fun _ => inv) world)
    (hothers : ∀ world next, inv world → unheard others world next → inv next)
    (hdrift : ∀ world next, inv world → surroundings.remembering.drifts world next → inv next)
    (hallowed : ∀ world question, allows world question → inv world)
    (hrun : Calls surroundings others starts origin trace final) (hinv : inv (origin, [])) :
    inv (final, historyOf trace) ∧ ∀ before asked after, trace = before ++ asked :: after →
        allows (asked.before, historyOf before) asked.question ∧
        surroundings.answers asked.before asked.question asked.answer asked.after := by
  have hlater : ∀ (_ : α) world now, inv world →
      surroundings.remembering.Later world now → inv now := by
    intro _ world now hworld hnow
    induction hnow with
    | refl => exact hworld
    | tail _ hlast ih => exact hdrift _ _ ih hlast
  have hall : ∀ {trace final}, Calls surroundings.remembering (unheard others) starts
      (origin, []) trace final → inv final ∧ ∀ asked ∈ trace, allows asked.before asked.question ∧
        surroundings.remembering.answers asked.before asked.question asked.answer
          asked.after := by
    intro trace final hcalls
    induction hcalls with
    | start => exact ⟨hinv, by simp⟩
    | between hrun hlast ih => exact ⟨hothers _ _ ih.1 hlast, ih.2⟩
    | call hrun hstarts hexecutes ih =>
        have hbegun := hsafe _ _ hstarts ih.1
        refine ⟨(hbegun.ended hlater hallowed (fun _ _ h => h) hexecutes).1, fun asked hmem => ?_⟩
        rcases List.mem_append.mp hmem with hbefore | hlast
        · exact ih.2 asked hbefore
        · exact hbegun.asked hlater hexecutes asked hlast
  obtain ⟨hfinal, hasks⟩ := hrun.recalled hall
  refine ⟨hfinal, fun before asked after hsplit => ?_⟩
  obtain ⟨hasked, hanswered⟩ := hasks before asked after hsplit
  exact ⟨hasked, hanswered.1⟩

/-! ## What lasts -/

/-- A preorder that drifts and allowed answers respect relates every world of an
execution to the last. -/
theorem Program.Safe.lasting {World : Type u} {surroundings : Surroundings Question Answer World}
    {allows : World → Question → Prop} {inv : World → Prop} {related : World → World → Prop}
    {program : Program Question Answer α} {world final : World} {ending : Ending α}
    {trace : List (Asked Question Answer World)}
    (hsafe : program.Safe surroundings allows (fun _ _ => True) world)
    (hrefl : ∀ world, inv world → related world world)
    (htrans : ∀ first second third, related first second → related second third →
      related first third) (hdrift : ∀ world next, inv world → surroundings.drifts world next →
      inv next ∧ related world next)
    (hasked : ∀ world question answer next, inv world → allows world question →
      surroundings.answers world question answer next → inv next ∧ related world next)
    (hrun : Executes surroundings program world trace ending final) (hinv : inv world) :
    related world final ∧
      ∀ asked ∈ trace, related asked.before final ∧ related asked.after final := by
  induction hrun with
  | done value world => exact ⟨hrefl world hinv, by simp⟩
  | cutOff program world => exact ⟨hrefl world hinv, by simp⟩
  | drift hlast hrest ih =>
      obtain ⟨hnext, hrelated⟩ := hdrift _ _ hinv hlast
      obtain ⟨hfinal, hall⟩ :=
        ih (hsafe.later (.single hlast) fun _ _ _ _ _ => trivial) hnext
      exact ⟨htrans _ _ _ hrelated hfinal, hall⟩
  | @ask question follow world next final answer trace ending hanswer hrest ih =>
      obtain ⟨hallowed, hfollows⟩ := hsafe world .refl
      obtain ⟨hnext, hrelated⟩ := hasked world question answer next hinv hallowed hanswer
      obtain ⟨hfinal, hall⟩ := ih (hfollows answer next hanswer) hnext
      have hbegun := htrans _ _ _ hrelated hfinal
      refine ⟨hbegun, fun asked hmem => ?_⟩
      rcases List.mem_cons.mp hmem with rfl | hlast
      · exact ⟨hbegun, hfinal⟩
      · exact hall asked hlast

/-- A preorder that others, drifts and allowed answers respect relates every world in
which a question was asked, and every one it left, to the last. -/
theorem Calls.lasting (inv : Remembering Question Answer World → Prop)
    (related : Remembering Question Answer World → Remembering Question Answer World → Prop)
    (hsafe : ∀ program world, starts program → inv world →
      program.Safe surroundings.remembering allows (fun _ _ => True) world)
    (hrefl : ∀ world, inv world → related world world)
    (htrans : ∀ first second third, related first second → related second third →
      related first third) (hothers : ∀ world next, inv world → unheard others world next →
      inv next ∧ related world next)
    (hdrift : ∀ world next, inv world → surroundings.remembering.drifts world next →
      inv next ∧ related world next)
    (hasked : ∀ world question answer next, inv world → allows world question →
      surroundings.remembering.answers world question answer next → inv next ∧ related world next)
    (hrun : Calls surroundings others starts origin trace final) (hinv : inv (origin, [])) :
    ∀ before asked after, trace = before ++ asked :: after →
      related (asked.before, historyOf before) (final, historyOf trace) ∧
        related (asked.after, asked.heard :: historyOf before)
          (final, historyOf trace) := by
  have hall : ∀ {trace final}, Calls surroundings.remembering (unheard others) starts
      (origin, []) trace final → inv final ∧
        ∀ asked ∈ trace, related asked.before final ∧ related asked.after final := by
    intro trace final hcalls
    induction hcalls with
    | start => exact ⟨hinv, by simp⟩
    | between hrun hlast ih =>
        obtain ⟨hnext, hrelated⟩ := hothers _ _ ih.1 hlast
        refine ⟨hnext, fun asked hmem => ?_⟩
        obtain ⟨hbefore, hafter⟩ := ih.2 asked hmem
        exact ⟨htrans _ _ _ hbefore hrelated, htrans _ _ _ hafter hrelated⟩
    | call hrun hstarts hexecutes ih =>
        have hbegun := hsafe _ _ hstarts ih.1
        obtain ⟨hrelated, hlater⟩ :=
          hbegun.lasting hrefl htrans hdrift hasked hexecutes ih.1
        refine ⟨hbegun.carries (fun _ _ h hlast => (hdrift _ _ h hlast).1)
          (fun _ _ _ _ h hallowed hlast => (hasked _ _ _ _ h hallowed hlast).1)
          hexecutes ih.1, fun asked hmem => ?_⟩
        rcases List.mem_append.mp hmem with hbefore | hlast
        · obtain ⟨hbegan, hended⟩ := ih.2 asked hbefore
          exact ⟨htrans _ _ _ hbegan hrelated, htrans _ _ _ hended hrelated⟩
        · exact hlater asked hlast
  intro before asked after hsplit
  have hmem := mem_rememberedFrom [] before after asked
  rw [← hsplit, List.append_nil] at hmem
  exact (hall hrun.remembering).2 _ hmem

end DodgingInfinity
