import DodgingInfinity.Library.Program
import Mathlib.Data.List.Basic

/-!
# Executions of a program in a world

A world answers the questions of a program and changes with them.  Between two
questions others may change the world, and the program may stop for good at
any point.  A program that keeps a protocol asks only what the protocol allows
in every execution, and what the protocol remembers stays true of the world.
-/

namespace DodgingInfinity

universe u

/-- What a world may answer and become, and how others may change it. -/
structure Surroundings (Question : Type u) (Answer : Question → Type u)
    (World : Type u) where
  answers : World → (question : Question) → Answer question → World → Prop
  drifts : World → World → Prop

/-- One question of an execution, with the world around it. -/
structure Asked (Question : Type u) (Answer : Question → Type u)
    (World : Type u) where
  before : World
  question : Question
  answer : Answer question
  after : World

/-- How an execution ends: with a value, or cut off. -/
inductive Ending (α : Type u) where
  | finished (value : α)
  | cutOff

section

variable {Question : Type u} {Answer : Question → Type u} {World α β : Type u}

/-- The program, started in a world, asks a trace of questions and ends in a
world. -/
inductive Executes (surroundings : Surroundings Question Answer World) :
    Program Question Answer α → World → List (Asked Question Answer World) → Ending α → World → Prop
  | done (value : α) (world : World) :
      Executes surroundings (.done value) world [] (.finished value) world
  | cutOff (program : Program Question Answer α) (world : World) :
      Executes surroundings program world [] .cutOff world
  | drift {program : Program Question Answer α} {world next final : World}
      {trace : List (Asked Question Answer World)} {ending : Ending α}
      (hdrift : surroundings.drifts world next)
      (hrest : Executes surroundings program next trace ending final) :
      Executes surroundings program world trace ending final
  | ask {question : Question} {follow : Answer question → Program Question Answer α}
      {world next final : World} {answer : Answer question}
      {trace : List (Asked Question Answer World)} {ending : Ending α}
      (hanswer : surroundings.answers world question answer next)
      (hrest : Executes surroundings (follow answer) next trace ending final) :
      Executes surroundings (.ask question follow) world
        (⟨world, question, answer, next⟩ :: trace) ending final

/-- What the protocol remembers after a trace. -/
def Protocol.after (protocol : Protocol Question Answer)
    (state : protocol.State) (trace : List (Asked Question Answer World)) : protocol.State :=
  trace.foldl (fun state asked => protocol.hears state asked.question asked.answer) state

variable {surroundings : Surroundings Question Answer World}
  {protocol : Protocol Question Answer}

/-- What the protocol remembers is true of the world, whatever others do and
whatever an allowed question is answered. -/
structure Faithful (surroundings : Surroundings Question Answer World)
    (protocol : Protocol Question Answer)
    (agrees : protocol.State → World → Prop) : Prop where
  drift : ∀ {state world next}, agrees state world →
    surroundings.drifts world next → agrees state next
  answer : ∀ {state world question answer next}, agrees state world →
    protocol.allows state question → surroundings.answers world question answer next →
      agrees (protocol.hears state question answer) next

/-- Every question of an execution is allowed by what the protocol remembers
then, which is true of the world it is asked in. -/
theorem Program.Keeps.asked {agrees : protocol.State → World → Prop}
    (hfaithful : Faithful surroundings protocol agrees)
    {post : α → protocol.State → Prop} {program : Program Question Answer α}
    {state : protocol.State} {world final : World}
    {trace before after : List (Asked Question Answer World)}
    {asked : Asked Question Answer World} {ending : Ending α}
    (hkeeps : program.Keeps protocol post state) (hagrees : agrees state world)
    (hrun : Executes surroundings program world trace ending final)
    (hsplit : trace = before ++ asked :: after) :
    protocol.allows (protocol.after state before) asked.question ∧
      agrees (protocol.after state before) asked.before ∧
      surroundings.answers asked.before asked.question asked.answer
        asked.after := by
  induction hrun generalizing state before with
  | done value world => simp at hsplit
  | cutOff program world => simp at hsplit
  | drift hdrift hrest ih =>
      exact ih hkeeps (hfaithful.drift hagrees hdrift) hsplit
  | ask hanswer hrest ih =>
      cases before with
      | nil =>
          obtain ⟨rfl, -⟩ := List.cons.inj hsplit
          exact ⟨hkeeps.1, hagrees, hanswer⟩
      | cons first before =>
          obtain ⟨rfl, htail⟩ := List.cons.inj hsplit
          have hnext := hfaithful.answer hagrees hkeeps.1 hanswer
          have htold := ih (hkeeps.2 _) hnext htail
          exact htold

/-- An execution ends in a world that what the protocol remembers is true of,
and a finished one with its postcondition. -/
theorem Program.Keeps.ended {agrees : protocol.State → World → Prop}
    (hfaithful : Faithful surroundings protocol agrees)
    {post : α → protocol.State → Prop} {program : Program Question Answer α}
    {state : protocol.State} {world final : World}
    {trace : List (Asked Question Answer World)} {ending : Ending α}
    (hkeeps : program.Keeps protocol post state) (hagrees : agrees state world)
    (hrun : Executes surroundings program world trace ending final) :
    agrees (protocol.after state trace) final ∧ ∀ value, ending = .finished value →
        post value (protocol.after state trace) := by
  induction hrun generalizing state with
  | done value world =>
      refine ⟨hagrees, fun other hother => ?_⟩
      cases hother
      exact hkeeps
  | cutOff program world => exact ⟨hagrees, fun value h => by cases h⟩
  | drift hdrift hrest ih =>
      exact ih hkeeps (hfaithful.drift hagrees hdrift)
  | ask hanswer hrest ih =>
      exact ih (hkeeps.2 _) (hfaithful.answer hagrees hkeeps.1 hanswer)

/-! ## Undisturbed executions -/

/-- Run a program in a world that answers every question in one way. -/
def Program.run (perform : (question : Question) → World → Answer question × World) :
    Program Question Answer α → World → α × World
  | .done value, world => (value, world)
  | .ask question follow, world =>
      Program.run perform (follow (perform question world).1) (perform question world).2

variable {perform : (question : Question) → World → Answer question × World}

/-- What a program asks in an undisturbed run. -/
def Program.asks (perform : (question : Question) → World → Answer question × World) :
    Program Question Answer α → World → List (Asked Question Answer World)
  | .done _, _ => []
  | .ask question follow, world =>
      ⟨world, question, (perform question world).1, (perform question world).2⟩ ::
        Program.asks perform (follow (perform question world).1) (perform question world).2

/-- An undisturbed run is an execution that finishes. -/
theorem Program.run_executes (program : Program Question Answer α)
    (hanswers : ∀ world question, surroundings.answers world question
      (perform question world).1 (perform question world).2) (world : World) :
    Executes surroundings program world (program.asks perform world)
      (.finished (program.run perform world).1)
      (program.run perform world).2 := by
  induction program generalizing world with
  | done value => exact .done value world
  | ask question follow ih =>
      exact .ask (hanswers world question) (ih _ _)

end

/-! ## Undisturbed procedures -/

namespace Procedure

variable {Question : Type u} {Answer : Question → Type u}
  {World σ ε α β : Type u}

variable {perform : (question : Question) → World → Answer question × World}

end Procedure

end DodgingInfinity
