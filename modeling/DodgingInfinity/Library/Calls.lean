import DodgingInfinity.Library.Triple

/-!
# Calls of a program, and what others do between them

A call is one execution of a program in its surroundings, finished or cut off.
Between two calls others may do more than while a call is under way.  A program
that is safe from every world asks only what is allowed in every call.
-/

namespace DodgingInfinity

universe u

variable {Question : Type u} {Answer : Question → Type u} {World α : Type u}

/-- Calls one after another, each finished or cut off, with what others do between
them. -/
inductive Calls (surroundings : Surroundings Question Answer World)
    (others : World → World → Prop) (starts : Program Question Answer α → Prop)
    (origin : World) : List (Asked Question Answer World) → World → Prop
  | start : Calls surroundings others starts origin [] origin
  | between {trace : List (Asked Question Answer World)} {world next : World}
      (hrun : Calls surroundings others starts origin trace world) (hothers : others world next) :
      Calls surroundings others starts origin trace next
  | call {trace asked : List (Asked Question Answer World)} {world final : World}
      {program : Program Question Answer α} {ending : Ending α}
      (hrun : Calls surroundings others starts origin trace world) (hstarts : starts program)
      (hexecutes : Executes surroundings program world asked ending final) :
      Calls surroundings others starts origin (trace ++ asked) final

variable {surroundings : Surroundings Question Answer World}
  {allows : World → Question → Prop} {others : World → World → Prop}
  {starts : Program Question Answer α → Prop} {origin final : World}
  {trace : List (Asked Question Answer World)}

/-- What drifts and allowed answers keep, an execution of a safe program keeps. -/
theorem Program.Safe.carries {inv : World → Prop} {program : Program Question Answer α}
    {world : World} {ending : Ending α}
    (hsafe : program.Safe surroundings allows (fun _ _ => True) world)
    (hdrift : ∀ world next, inv world → surroundings.drifts world next → inv next)
    (hasked : ∀ world question answer next, inv world → allows world question →
      surroundings.answers world question answer next → inv next)
    (hrun : Executes surroundings program world trace ending final) (hinv : inv world) :
    inv final := by
  induction hrun with
  | done value world => exact hinv
  | cutOff program world => exact hinv
  | drift hlast hrest ih =>
      exact ih (hsafe.later (.single hlast) fun _ _ _ _ _ => trivial) (hdrift _ _ hinv hlast)
  | @ask question follow world next final answer trace ending hanswer hrest ih =>
      obtain ⟨hallowed, hnext⟩ := hsafe world .refl
      exact ih (hnext answer next hanswer) (hasked world question answer next hinv hallowed hanswer)

variable {program : Program Question Answer α}

/-- What drifts and allowed answers keep holds wherever a safe program asks, and at its
end. -/
theorem Program.Safe.keeping {inv : World → Prop} {post : α → World → Prop} {world : World}
    (hsafe : program.Safe surroundings allows post world)
    (hdrift : ∀ world next, inv world → surroundings.drifts world next → inv next)
    (hasked : ∀ world question answer next, inv world → allows world question →
      surroundings.answers world question answer next → inv next) (hinv : inv world) :
    program.Safe surroundings (fun world question => allows world question ∧ inv world)
      (fun value world => post value world ∧ inv world) world := by
  induction program generalizing world with
  | done value => exact ⟨hsafe, hinv⟩
  | ask question next ih =>
      intro now hlater
      obtain ⟨hallowed, hnext⟩ := hsafe now hlater
      have hnow : inv now := by
        clear hsafe hallowed hnext
        induction hlater with
        | refl => exact hinv
        | tail _ hlast ih => exact hdrift _ _ ih hlast
      exact ⟨⟨hallowed, hnow⟩, fun answer after hanswer =>
        ih answer (hnext answer after hanswer)
          (hasked now question answer after hnow hallowed hanswer)⟩

/-! ## Executions of procedures -/

variable {β : Type u} {world middle : World}

variable {next : α → Program Question Answer β}

theorem Executes.andThen
    {before after : List (Asked Question Answer World)} {value : α} {ending : Ending β}
    (hfirst : Executes surroundings program world before (.finished value) middle)
    (hnext : Executes surroundings (next value) middle after ending final) :
    Executes surroundings (program.andThen next) world (before ++ after) ending
      final := by
  generalize hended : Ending.finished value = ended at hfirst
  induction hfirst with
  | done held world =>
      obtain rfl := Ending.finished.inj hended
      exact hnext
  | cutOff program world => cases hended
  | drift hdrift hrest ih => exact .drift hdrift (ih hnext hended)
  | ask hanswer hrest ih => exact .ask hanswer (ih hnext hended)

theorem Executes.andThen_cutOff (hfirst : Executes surroundings program world trace .cutOff final) :
    Executes surroundings (program.andThen next) world trace .cutOff final := by
  generalize hended : Ending.cutOff = ended at hfirst
  induction hfirst with
  | done held world => cases hended
  | cutOff program world => exact .cutOff _ world
  | drift hdrift hrest ih => exact .drift hdrift (ih hended)
  | ask hanswer hrest ih => exact .ask hanswer (ih hended)

namespace Procedure

variable {σ ε : Type u} {working later last : σ} {value : α}

/-- What drifts and allowed answers keep, a procedure that asks only what is allowed
keeps. -/
theorem Triple.keeping {inv : World → Prop} {step : Procedure Question Answer σ ε α}
    {allows : World → Question → Prop}
    (hasks : Triple surroundings allows (fun _ _ => True) step (fun _ _ _ => True)
      (fun _ _ _ => True))
    (hdrift : ∀ world next, inv world → surroundings.drifts world next → inv next)
    (hasked : ∀ world question answer next, inv world → allows world question →
      surroundings.answers world question answer next → inv next) :
    Triple surroundings (fun world question => allows world question ∧ inv world)
      (fun _ => inv) step (fun _ _ => inv) (fun _ _ => inv) := by
  intro working world hinv
  refine ((hasks working world trivial).keeping hdrift hasked hinv).mono ?_
  rintro ⟨result, after⟩ final ⟨-, hfinal⟩
  cases result <;> exact hfinal

variable {fault : ε}

end Procedure

end DodgingInfinity

/-!
## Procedures within procedures

A procedure with a working state of its own can be a step of another one, whose
state it does not touch, and a body can be done for each item of a list.
-/

namespace DodgingInfinity

universe u

namespace Procedure

variable {Question : Type u} {Answer : Question → Type u} {σ τ ε α β ι : Type u}

variable {World : Type u} {surroundings : Surroundings Question Answer World}
  {allows : World → Question → Prop}

end Procedure

end DodgingInfinity
