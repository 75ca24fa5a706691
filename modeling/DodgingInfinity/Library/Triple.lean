import DodgingInfinity.Library.Execution
import Mathlib.Logic.Relation

/-!
# Triples over a world

A program is safe from a world when, whatever others do and whatever it is
answered, it asks only what its world allows and finishes where its
postcondition holds.  A procedure has a triple when it is safe from every
working state and world its precondition holds of.  What a safe program is
allowed covers every point a crash can leave.
-/

namespace DodgingInfinity

universe u

section

variable {Question : Type u} {Answer : Question → Type u} {World α β : Type u}

/-- What others may have made of a world. -/
def Surroundings.Later (surroundings : Surroundings Question Answer World) : World → World → Prop :=
  Relation.ReflTransGen surroundings.drifts

/-- Every question the program can ask is allowed where it is asked, and it
finishes where the postcondition holds. -/
def Program.Safe (surroundings : Surroundings Question Answer World)
    (allows : World → Question → Prop) (post : α → World → Prop) :
    Program Question Answer α → World → Prop
  | .done value, world => post value world
  | .ask question next, world => ∀ now, surroundings.Later world now →
      allows now question ∧ ∀ answer after, surroundings.answers now question answer after →
          Program.Safe surroundings allows post (next answer) after

variable {surroundings : Surroundings Question Answer World}
  {allows : World → Question → Prop}

variable {program : Program Question Answer α} {world : World}

theorem Program.Safe.mono {first second : α → World → Prop}
    (h : program.Safe surroundings allows first world)
    (hle : ∀ value world, first value world → second value world) :
    program.Safe surroundings allows second world := by
  induction program generalizing world with
  | done value => exact hle value world h
  | ask question next ih =>
      intro now hlater
      obtain ⟨hallowed, hnext⟩ := h now hlater
      exact ⟨hallowed, fun answer after hanswer =>
        ih answer (hnext answer after hanswer)⟩

variable {post : α → World → Prop}

/-- A program that is safe under a stricter protocol is safe. -/
theorem Program.Safe.allowing {stricter : World → Question → Prop}
    (h : program.Safe surroundings stricter post world)
    (hle : ∀ world question, stricter world question → allows world question) :
    program.Safe surroundings allows post world := by
  induction program generalizing world with
  | done value => exact h
  | ask question next ih =>
      intro now hlater
      obtain ⟨hallowed, hnext⟩ := h now hlater
      exact ⟨hle now question hallowed, fun answer after hanswer =>
        ih answer (hnext answer after hanswer)⟩

theorem Program.Safe.andThen {middle : α → World → Prop}
    {post : β → World → Prop}
    {next : α → Program Question Answer β}
    (h : program.Safe surroundings allows middle world) (hnext : ∀ value world, middle value world →
      (next value).Safe surroundings allows post world) :
    (program.andThen next).Safe surroundings allows post world := by
  induction program generalizing world with
  | done value => exact hnext value world h
  | ask question continue_ ih =>
      intro now hlater
      obtain ⟨hallowed, hrest⟩ := h now hlater
      exact ⟨hallowed, fun answer after hanswer =>
        ih answer (hrest answer after hanswer)⟩

/-- What others do before a program goes on does not make it unsafe, unless it
has finished. -/
theorem Program.Safe.later {now : World}
    (h : program.Safe surroundings allows post world) (hlater : surroundings.Later world now)
    (hpost : ∀ value world now, post value world → surroundings.Later world now → post value now) :
    program.Safe surroundings allows post now := by
  cases program with
  | done value => exact hpost value world now h hlater
  | ask question next =>
      exact fun final hfinal => h final (hlater.trans hfinal)

variable {final : World} {trace : List (Asked Question Answer World)} {ending : Ending α}

/-- Every question of an execution is allowed in the world it is asked in. -/
theorem Program.Safe.asked
    (h : program.Safe surroundings allows post world) (hpost : ∀ value world now, post value world →
      surroundings.Later world now → post value now)
    (hrun : Executes surroundings program world trace ending final) :
    ∀ asked ∈ trace, allows asked.before asked.question ∧
      surroundings.answers asked.before asked.question asked.answer
        asked.after := by
  induction hrun with
  | done value world => simp
  | cutOff program world => simp
  | drift hdrift hrest ih => exact ih (h.later (.single hdrift) hpost)
  | @ask question follow world next final answer trace ending hanswer hrest ih =>
      obtain ⟨hallowed, hnext⟩ := h world .refl
      intro asked hasked
      rcases List.mem_cons.mp hasked with rfl | hrest
      · exact ⟨hallowed, hanswer⟩
      · exact ih (hnext answer next hanswer) asked hrest

variable {inv : World → Prop}

/-- What holds wherever a question is allowed, and of every finished world,
holds wherever an execution is cut off. -/
theorem Program.Safe.ended
    (h : program.Safe surroundings allows post world) (hpost : ∀ value world now, post value world →
      surroundings.Later world now → post value now)
    (hallowed : ∀ world question, allows world question → inv world)
    (hfinished : ∀ value world, post value world → inv world)
    (hrun : Executes surroundings program world trace ending final) :
    inv final ∧ ∀ value, ending = .finished value → post value final := by
  induction hrun with
  | done value world =>
      refine ⟨hfinished value world h, fun other hother => ?_⟩
      cases hother
      exact h
  | cutOff program world =>
      refine ⟨?_, fun value hvalue => (by cases hvalue)⟩
      cases program with
      | done value => exact hfinished value world h
      | ask question next => exact hallowed world question (h world .refl).1
  | drift hdrift hrest ih => exact ih (h.later (.single hdrift) hpost)
  | @ask question follow world next final answer trace ending hanswer hrest ih =>
      exact ih ((h world .refl).2 answer next hanswer)

/-! ## Sessions -/

/-- Executions one after another, each finished or cut off, with what others do
between them. -/
inductive Sessions (surroundings : Surroundings Question Answer World)
    (starts : Program Question Answer α → Prop) (origin : World) :
    List (Asked Question Answer World) → World → Prop
  | start : Sessions surroundings starts origin [] origin
  | drift {trace : List (Asked Question Answer World)} {world next : World}
      (hrun : Sessions surroundings starts origin trace world)
      (hdrift : surroundings.drifts world next) : Sessions surroundings starts origin trace next
  | session {trace asked : List (Asked Question Answer World)}
      {world final : World} {program : Program Question Answer α}
      {ending : Ending α} (hrun : Sessions surroundings starts origin trace world)
      (hstarts : starts program)
      (hexecutes : Executes surroundings program world asked ending final) :
      Sessions surroundings starts origin (trace ++ asked) final

/-- An invariant that every program starts from, keeps wherever it asks and
finishes with holds at the end of all sessions, and every question was
allowed. -/
theorem Sessions.invariant
    {starts : Program Question Answer α → Prop} {origin : World} (hinit : inv origin)
    (hdrift : ∀ world next, inv world → surroundings.drifts world next → inv next)
    (hallowed : ∀ world question, allows world question → inv world)
    (hsafe : ∀ program world, starts program → inv world →
      program.Safe surroundings allows (fun _ => inv) world)
    (hrun : Sessions surroundings starts origin trace final) :
    inv final ∧ ∀ asked ∈ trace, allows asked.before asked.question ∧
      surroundings.answers asked.before asked.question asked.answer
        asked.after := by
  have hlater : ∀ (_ : α) world now, inv world →
      surroundings.Later world now → inv now := by
    intro value world now hinv hnow
    induction hnow with
    | refl => exact hinv
    | tail _ hlast ih => exact hdrift _ _ ih hlast
  induction hrun with
  | start => exact ⟨hinit, by simp⟩
  | drift hrun hlast ih => exact ⟨hdrift _ _ ih.1 hlast, ih.2⟩
  | session hrun hstarts hexecutes ih =>
      have hbegin := hsafe _ _ hstarts ih.1
      obtain ⟨hfinal, -⟩ := hbegin.ended hlater hallowed (fun _ _ h => h) hexecutes
      refine ⟨hfinal, fun asked hasked => ?_⟩
      rcases List.mem_append.mp hasked with hbefore | hlast
      · exact ih.2 asked hbefore
      · exact hbegin.asked hlater hexecutes asked hlast

end

/-! ## Procedures -/

namespace Procedure

variable {Question : Type u} {Answer : Question → Type u}
  {World σ ε α β : Type u} {surroundings : Surroundings Question Answer World}
  {allows : World → Question → Prop}

/-- From every working state and world the precondition holds of, the procedure
is safe and ends in its postcondition, or in a fault that excuses it. -/
def Triple (surroundings : Surroundings Question Answer World)
    (allows : World → Question → Prop) (pre : σ → World → Prop)
    (procedure : Procedure Question Answer σ ε α)
    (post : α → σ → World → Prop) (fails : ε → σ → World → Prop) : Prop :=
  ∀ working world, pre working world → (procedure working).Safe surroundings allows
      (fun result world => match result with
        | (.ok value, after) => post value after world
        | (.error fault, after) => fails fault after world) world

variable {pre : σ → World → Prop} {post : α → σ → World → Prop}
  {fails : ε → σ → World → Prop}

theorem triple_pure (value : α)
    (h : ∀ working world, pre working world → post value working world) :
    Triple surroundings allows pre
      (pure value : Procedure Question Answer σ ε α) post fails :=
  fun working world hpre => h working world hpre

theorem triple_stop (fault : ε)
    (h : ∀ working world, pre working world → fails fault working world) :
    Triple surroundings allows pre
      (stop fault : Procedure Question Answer σ ε α) post fails :=
  fun working world hpre => h working world hpre

/-- Reading tells what the working state is. -/
theorem triple_read : Triple surroundings allows pre (read : Procedure Question Answer σ ε σ)
      (fun value working world => working = value ∧ pre working world) fails :=
  fun _ _ hpre => ⟨rfl, hpre⟩

theorem triple_change {post : PUnit → σ → World → Prop} (f : σ → σ)
    (h : ∀ working world, pre working world → post ⟨⟩ (f working) world) :
    Triple surroundings allows pre
      (change f : Procedure Question Answer σ ε PUnit) post fails :=
  fun working world hpre => h working world hpre

theorem triple_put (question : Question)
    {post : Answer question → σ → World → Prop} (h : ∀ working world now, pre working world →
      surroundings.Later world now → allows now question ∧
        ∀ answer after, surroundings.answers now question answer after →
          post answer working after) : Triple surroundings allows pre
      (put question : Procedure Question Answer σ ε (Answer question)) post
      fails :=
  fun working world hpre now hlater => h working world now hpre hlater

variable {first : Procedure Question Answer σ ε α}

theorem Triple.bind {middle : α → σ → World → Prop}
    {post : β → σ → World → Prop}
    {next : α → Procedure Question Answer σ ε β}
    (hfirst : Triple surroundings allows pre first middle fails)
    (hnext : ∀ value, Triple surroundings allows (middle value) (next value) post
      fails) :
    Triple surroundings allows pre (first >>= next) post fails := by
  intro working world hpre
  refine (hfirst working world hpre).andThen fun result world hmiddle => ?_
  match result with
  | (.ok value, after) => exact hnext value after world hmiddle
  | (.error fault, after) => exact hmiddle

theorem Triple.onFault {caught : ε → σ → World → Prop}
    {handler : ε → Procedure Question Answer σ ε α}
    (hfirst : Triple surroundings allows pre first post caught)
    (hhandler : ∀ fault, Triple surroundings allows (caught fault) (handler fault) post fails) :
    Triple surroundings allows pre (first.onFault handler) post fails := by
  intro working world hpre
  refine (hfirst working world hpre).andThen fun result world hmiddle => ?_
  match result with
  | (.ok value, after) => exact hmiddle
  | (.error fault, after) => exact hhandler fault after world hmiddle

variable {procedure : Procedure Question Answer σ ε α}

theorem Triple.weaken {strong : σ → World → Prop}
    (h : Triple surroundings allows pre procedure post fails)
    (hpre : ∀ working world, strong working world → pre working world) :
    Triple surroundings allows strong procedure post fails :=
  fun working world hstrong => h working world (hpre working world hstrong)

theorem Triple.mono {more : α → σ → World → Prop}
    {failsMore : ε → σ → World → Prop} (h : Triple surroundings allows pre procedure post fails)
    (hpost : ∀ value working world, post value working world → more value working world)
    (hfails : ∀ fault working world, fails fault working world → failsMore fault working world) :
    Triple surroundings allows pre procedure more failsMore := by
  intro working world hpre
  refine (h working world hpre).mono fun result world hresult => ?_
  match result with
  | (.ok value, after) => exact hpost value after world hresult
  | (.error fault, after) => exact hfails fault after world hresult

theorem triple_ite (c : Prop) [Decidable c]
    {yes no : Procedure Question Answer σ ε α}
    (hyes : c → Triple surroundings allows pre yes post fails)
    (hno : ¬ c → Triple surroundings allows pre no post fails) :
    Triple surroundings allows pre (if c then yes else no) post fails := by
  split
  · rename_i h
    exact hyes h
  · rename_i h
    exact hno h

/-- A value of the working state may be given a name before it changes. -/
theorem triple_ghost {γ : Type u} (f : σ → γ) (h : ∀ value, Triple surroundings allows
      (fun working world => pre working world ∧ f working = value) procedure
      post fails) : Triple surroundings allows pre procedure post fails :=
  fun working world hpre => h (f working) working world ⟨hpre, rfl⟩

/-- What the precondition tells whatever the world is. -/
theorem triple_of {p : Prop} (hp : ∀ working world, pre working world → p)
    (h : p → Triple surroundings allows pre procedure post fails) :
    Triple surroundings allows pre procedure post fails :=
  fun working world hpre => h (hp working world hpre) working world hpre

end Procedure

end DodgingInfinity
