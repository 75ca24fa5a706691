import Mathlib.Logic.Basic

/-!
# Programs that ask their environment

A program has finished with a value, or it asks a question and goes on with the
answer.  Between two questions it does nothing the environment could see, so
the questions are the points where other processes may interleave.

A protocol says which questions are allowed after which answers.  A program
keeps it when every question it can ever ask is allowed, whatever is answered.
-/

namespace DodgingInfinity

universe u v w

/-- A finished value, or a question and what follows each of its answers. -/
inductive Program (Question : Type u) (Answer : Question → Type v)
    (α : Type w) where
  | done (value : α)
  | ask (question : Question)
      (next : Answer question → Program Question Answer α)

/-- The questions allowed in each state, and what an answer makes of it. -/
structure Protocol (Question : Type u) (Answer : Question → Type v) where
  State : Type w
  allows : State → Question → Prop
  hears : State → (question : Question) → Answer question → State

namespace Program

variable {Question : Type u} {Answer : Question → Type v} {α β : Type w}

/-- Run a program and go on with its value. -/
def andThen (next : α → Program Question Answer β) :
    Program Question Answer α → Program Question Answer β
  | done value => next value
  | ask question continue_ => ask question fun answer =>
      andThen next (continue_ answer)

variable {protocol : Protocol Question Answer} {state : protocol.State}

/-- Every question the program can ask is allowed, and what it finishes with
meets the postcondition. -/
def Keeps (protocol : Protocol Question Answer) (post : α → protocol.State → Prop) :
    Program Question Answer α → protocol.State → Prop
  | done value, state => post value state
  | ask question next, state => protocol.allows state question ∧
      ∀ answer, Keeps protocol post (next answer) (protocol.hears state question answer)

variable {program : Program Question Answer α}

theorem Keeps.mono {first second : α → protocol.State → Prop}
    (h : program.Keeps protocol first state)
    (hle : ∀ value state, first value state → second value state) :
    program.Keeps protocol second state := by
  induction program generalizing state with
  | done value => exact hle value state h
  | ask question next ih => exact ⟨h.1, fun answer => ih answer (h.2 answer)⟩

theorem Keeps.andThen {middle : α → protocol.State → Prop}
    {post : β → protocol.State → Prop}
    {next : α → Program Question Answer β} (h : program.Keeps protocol middle state)
    (hnext : ∀ value state, middle value state → (next value).Keeps protocol post state) :
    (program.andThen next).Keeps protocol post state := by
  induction program generalizing state with
  | done value => exact hnext value state h
  | ask question continue_ ih =>
      exact ⟨h.1, fun answer => ih answer (h.2 answer)⟩

end Program

/-- A program over a working state that may stop with a fault; the state it
changed so far outlives the fault. -/
def Procedure (Question : Type u) (Answer : Question → Type v) (σ ε α : Type w) : Type _ :=
  σ → Program Question Answer (Except ε α × σ)

namespace Procedure

variable {Question : Type u} {Answer : Question → Type w} {σ ε α β : Type w}

/-- Go on with the value of a procedure that did not stop. -/
def andThen (first : Procedure Question Answer σ ε α) (next : α → Procedure Question Answer σ ε β) :
    Procedure Question Answer σ ε β := fun state =>
  (first state).andThen fun
    | (.ok value, after) => next value after
    | (.error fault, after) => .done (.error fault, after)

instance : Monad (Procedure Question Answer σ ε) where
  pure value := fun state => .done (.ok value, state)
  bind := andThen

/-- Stop with a fault. -/
def stop (fault : ε) : Procedure Question Answer σ ε α := fun state =>
  .done (.error fault, state)

/-- The working state. -/
def read : Procedure Question Answer σ ε σ := fun state =>
  .done (.ok state, state)

/-- Change the working state. -/
def change (f : σ → σ) : Procedure Question Answer σ ε PUnit := fun state =>
  .done (.ok ⟨⟩, f state)

/-- Ask the environment. -/
def put (question : Question) :
    Procedure Question Answer σ ε (Answer question) := fun state =>
  .ask question fun answer => .done (.ok answer, state)

/-- Go on from a fault that the handler knows; any other passes on. -/
def onFault (first : Procedure Question Answer σ ε α)
    (handler : ε → Procedure Question Answer σ ε α) :
    Procedure Question Answer σ ε α := fun state =>
  (first state).andThen fun
    | (.ok value, after) => .done (.ok value, after)
    | (.error fault, after) => handler fault after

variable {protocol : Protocol Question Answer}

/-- From a working state and a protocol state that agree, the procedure keeps
the protocol and ends in an agreement, or in a fault that excuses it. -/
def Keeps (protocol : Protocol Question Answer) (pre : σ → protocol.State → Prop)
    (procedure : Procedure Question Answer σ ε α) (post : α → σ → protocol.State → Prop)
    (fails : ε → σ → protocol.State → Prop) : Prop :=
  ∀ working state, pre working state → (procedure working).Keeps protocol
      (fun result state => match result with
        | (.ok value, after) => post value after state
        | (.error fault, after) => fails fault after state) state

variable {pre : σ → protocol.State → Prop}
  {post : α → σ → protocol.State → Prop}
  {fails : ε → σ → protocol.State → Prop}

theorem keeps_pure (value : α) (h : ∀ working state, pre working state → post value working state) :
    Keeps protocol pre (pure value : Procedure Question Answer σ ε α) post
      fails :=
  fun working state hpre => h working state hpre

theorem keeps_stop (fault : ε)
    (h : ∀ working state, pre working state → fails fault working state) :
    Keeps protocol pre (stop fault : Procedure Question Answer σ ε α) post
      fails :=
  fun working state hpre => h working state hpre

theorem keeps_read {post : σ → σ → protocol.State → Prop}
    (h : ∀ working state, pre working state → post working working state) :
    Keeps protocol pre (read : Procedure Question Answer σ ε σ) post fails :=
  fun working state hpre => h working state hpre

/-- Reading tells what the working state is. -/
theorem keeps_read_self : Keeps protocol pre (read : Procedure Question Answer σ ε σ)
      (fun value working state => working = value ∧ pre working state) fails :=
  keeps_read fun _ _ h => ⟨rfl, h⟩

theorem keeps_change {post : PUnit → σ → protocol.State → Prop} (f : σ → σ)
    (h : ∀ working state, pre working state → post ⟨⟩ (f working) state) :
    Keeps protocol pre (change f : Procedure Question Answer σ ε PUnit) post
      fails :=
  fun working state hpre => h working state hpre

theorem keeps_put (question : Question)
    {post : Answer question → σ → protocol.State → Prop}
    (hallowed : ∀ working state, pre working state → protocol.allows state question)
    (h : ∀ working state answer, pre working state →
      post answer working (protocol.hears state question answer)) : Keeps protocol pre
      (put question : Procedure Question Answer σ ε (Answer question)) post
      fails :=
  fun working state hpre =>
    ⟨hallowed working state hpre, fun answer => h working state answer hpre⟩

variable {first : Procedure Question Answer σ ε α}

theorem Keeps.bind {middle : α → σ → protocol.State → Prop}
    {post : β → σ → protocol.State → Prop}
    {next : α → Procedure Question Answer σ ε β} (hfirst : Keeps protocol pre first middle fails)
    (hnext : ∀ value, Keeps protocol (middle value) (next value) post fails) :
    Keeps protocol pre (first >>= next) post fails := by
  intro working state hpre
  refine (hfirst working state hpre).andThen fun result state hmiddle => ?_
  match result with
  | (.ok value, after) => exact hnext value after state hmiddle
  | (.error fault, after) => exact hmiddle

theorem Keeps.onFault {caught : ε → σ → protocol.State → Prop}
    {handler : ε → Procedure Question Answer σ ε α} (hfirst : Keeps protocol pre first post caught)
    (hhandler : ∀ fault, Keeps protocol (caught fault) (handler fault) post
      fails) :
    Keeps protocol pre (first.onFault handler) post fails := by
  intro working state hpre
  refine (hfirst working state hpre).andThen fun result state hmiddle => ?_
  match result with
  | (.ok value, after) => exact hmiddle
  | (.error fault, after) => exact hhandler fault after state hmiddle

variable {procedure : Procedure Question Answer σ ε α}

theorem Keeps.weaken {strong : σ → protocol.State → Prop}
    (h : Keeps protocol pre procedure post fails)
    (hpre : ∀ working state, strong working state → pre working state) :
    Keeps protocol strong procedure post fails :=
  fun working state hstrong => h working state (hpre working state hstrong)

theorem Keeps.mono {more : α → σ → protocol.State → Prop}
    {failsMore : ε → σ → protocol.State → Prop} (h : Keeps protocol pre procedure post fails)
    (hpost : ∀ value working state, post value working state → more value working state)
    (hfails : ∀ fault working state, fails fault working state → failsMore fault working state) :
    Keeps protocol pre procedure more failsMore := by
  intro working state hpre
  refine (h working state hpre).mono fun result state hresult => ?_
  match result with
  | (.ok value, after) => exact hpost value after state hresult
  | (.error fault, after) => exact hfails fault after state hresult

theorem keeps_ite (c : Prop) [Decidable c]
    {yes no : Procedure Question Answer σ ε α} (hyes : c → Keeps protocol pre yes post fails)
    (hno : ¬ c → Keeps protocol pre no post fails) :
    Keeps protocol pre (if c then yes else no) post fails := by
  split
  · rename_i h
    exact hyes h
  · rename_i h
    exact hno h

end Procedure

end DodgingInfinity
