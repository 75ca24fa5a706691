import DodgingInfinity.Library.Transition
import DodgingInfinity.Library.Triple
import Mathlib.Logic.Function.Basic

/-!
# Programs side by side

Callers run programs over one world.  Each goes on one question at a time, in
any order, and may be cut off at any point.  What a caller is allowed to ask is
what every other one must be prepared for, so a program that is safe among the
others alone is safe in every interleaving with them.
-/

namespace DodgingInfinity

universe u

/-- A world that callers share: what it answers each of them, and how it changes
by itself. -/
structure Commons (Caller : Type u) (Question : Type u)
    (Answer : Question → Type u) (World : Type u) where
  answers : Caller → World → (question : Question) → Answer question → World → Prop
  drifts : World → World → Prop

/-- A world with the programs that run over it. -/
structure Pool (Caller : Type u) (Question : Type u) (Answer : Question → Type u)
    (World α : Type u) where
  world : World
  running : Caller → Option (Program Question Answer α)

section

variable {Caller Question : Type u} {Answer : Question → Type u} {World α : Type u}

/-- What happens around one caller: the world's own changes, and the answers to
whatever the others are allowed to ask. -/
def Commons.around (commons : Commons Caller Question Answer World)
    (allows : Caller → World → Question → Prop) (caller : Caller) :
    Surroundings Question Answer World where
  answers := commons.answers caller
  drifts world next := commons.drifts world next ∨
    ∃ other question answer, other ≠ caller ∧ allows other world question ∧
      commons.answers other world question answer next

/-- What others may do does not end it. -/
def Surroundings.Stable (surroundings : Surroundings Question Answer World)
    (p : World → Prop) : Prop :=
  ∀ world next, p world → surroundings.drifts world next → p next

theorem Surroundings.Stable.later {surroundings : Surroundings Question Answer World}
    {p : World → Prop} (h : surroundings.Stable p) {world now : World}
    (hworld : p world) (hlater : surroundings.Later world now) : p now := by
  induction hlater with
  | refl => exact hworld
  | tail _ hlast ih => exact h _ _ ih hlast

/-- From every world where a precondition holds the program is safe. -/
def Program.SafeFrom (surroundings : Surroundings Question Answer World)
    (allows : World → Question → Prop) (p : World → Prop)
    (program : Program Question Answer α) : Prop :=
  ∀ world, p world → program.Safe surroundings allows (fun _ _ => True) world

section

variable {surroundings : Surroundings Question Answer World}
  {allows : World → Question → Prop} {p : World → Prop}

theorem Program.SafeFrom.weaken {strong : World → Prop}
    {program : Program Question Answer α} (h : program.SafeFrom surroundings allows p)
    (hle : ∀ world, strong world → p world) : program.SafeFrom surroundings allows strong :=
  fun world hworld => h world (hle world hworld)

end

variable [DecidableEq Caller]

/-- One step of a pool. -/
inductive Pool.Moves (commons : Commons Caller Question Answer World)
    (starts : Caller → Program Question Answer α → Prop) :
    Pool Caller Question Answer World α → Pool Caller Question Answer World α → Prop
  | drift (pool : Pool Caller Question Answer World α) {next : World}
      (hdrift : commons.drifts pool.world next) :
      Moves commons starts pool { pool with world := next }
  | start (pool : Pool Caller Question Answer World α) {caller : Caller}
      {program : Program Question Answer α} (hstarts : starts caller program)
      (hidle : pool.running caller = none) :
      Moves commons starts pool
        { pool with running := Function.update pool.running caller (some program) }
  | ask (pool : Pool Caller Question Answer World α) {caller : Caller}
      {question : Question} {follow : Answer question → Program Question Answer α}
      {answer : Answer question} {next : World}
      (hrunning : pool.running caller = some (.ask question follow))
      (hanswer : commons.answers caller pool.world question answer next) :
      Moves commons starts pool
        ⟨next, Function.update pool.running caller (some (follow answer))⟩
  | stop (pool : Pool Caller Question Answer World α) (caller : Caller) :
      Moves commons starts pool
        { pool with running := Function.update pool.running caller none }

/-- One question more of the program that a caller runs. -/
theorem Pool.Moves.asked {commons : Commons Caller Question Answer World}
    {starts : Caller → Program Question Answer α → Prop} {caller : Caller}
    {world next : World} {running : Caller → Option (Program Question Answer α)}
    {question : Question} {follow : Answer question → Program Question Answer α}
    {answer : Answer question} (hanswer : commons.answers caller world question answer next) :
    Moves commons starts ⟨world, Function.update running caller (some (.ask question follow))⟩
      ⟨next, Function.update running caller (some (follow answer))⟩ := by
  have h : Moves commons starts
      ⟨world, Function.update running caller (some (.ask question follow))⟩ _ :=
    .ask _ (Function.update_self ..) hanswer
  rwa [Function.update_idem] at h

/-- A world with nothing running over it. -/
def Pool.idle (world : World) : Pool Caller Question Answer World α :=
  ⟨world, fun _ => none⟩

variable {commons : Commons Caller Question Answer World}
  {allows : Caller → World → Question → Prop}
  {starts : Caller → Program Question Answer α → Prop}

/-- The invariant holds, and every running program is safe from here. -/
structure Pool.Sound (commons : Commons Caller Question Answer World)
    (allows : Caller → World → Question → Prop) (inv : World → Prop)
    (pool : Pool Caller Question Answer World α) : Prop where
  holds : inv pool.world
  safe : ∀ caller program, pool.running caller = some program →
    program.Safe (commons.around allows caller) (allows caller)
      (fun _ _ => True) pool.world

/-- What programs and the world must keep for every interleaving to be sound. -/
structure Commons.Keeps (commons : Commons Caller Question Answer World)
    (allows : Caller → World → Question → Prop)
    (starts : Caller → Program Question Answer α → Prop) (inv : World → Prop) :
    Prop where
  drift : ∀ {world next}, inv world → commons.drifts world next → inv next
  answer : ∀ {caller world question answer next}, inv world → allows caller world question →
    commons.answers caller world question answer next → inv next
  start : ∀ {caller program world}, starts caller program → inv world →
    program.Safe (commons.around allows caller) (allows caller)
      (fun _ _ => True) world

namespace Pool

variable {inv : World → Prop} {pool next : Pool Caller Question Answer World α}

omit [DecidableEq Caller] in
theorem Sound.idle {world : World} (h : inv world) :
    Sound commons allows inv (Pool.idle world : Pool Caller Question Answer World α) :=
  ⟨h, fun _ _ hrunning => by cases hrunning⟩

omit [DecidableEq Caller] in
/-- A question of a sound pool is allowed where it is asked. -/
theorem Sound.asks (h : Sound commons allows inv pool) {caller : Caller}
    {question : Question} {follow : Answer question → Program Question Answer α}
    (hrunning : pool.running caller = some (.ask question follow)) :
    allows caller pool.world question :=
  (h.safe caller _ hrunning pool.world .refl).1

omit [DecidableEq Caller] in
/-- A change around a caller leaves what it runs safe. -/
theorem Sound.around (h : Sound commons allows inv pool) {caller : Caller}
    {program : Program Question Answer α} {world : World}
    (hrunning : pool.running caller = some program)
    (hdrift : (commons.around allows caller).drifts pool.world world) :
    program.Safe (commons.around allows caller) (allows caller) (fun _ _ => True)
      world :=
  (h.safe caller program hrunning).later (.single hdrift) fun _ _ _ _ _ => trivial

/-- Every step of a sound pool leaves a sound one. -/
theorem Sound.moves (hkeeps : commons.Keeps allows starts inv)
    (h : Sound commons allows inv pool) (hmoves : Moves commons starts pool next) :
    Sound commons allows inv next := by
  cases hmoves with
  | drift hdrift =>
      exact ⟨hkeeps.drift h.holds hdrift, fun caller program hrunning =>
        h.around hrunning (.inl hdrift)⟩
  | @start caller program hstarts hidle =>
      refine ⟨h.holds, fun other running hrunning => ?_⟩
      by_cases hother : other = caller
      · subst hother
        simp only [Function.update_self] at hrunning
        obtain rfl := Option.some.inj hrunning
        exact hkeeps.start hstarts h.holds
      · simp only [Function.update_of_ne hother] at hrunning
        exact h.safe other running hrunning
  | @ask caller question follow answer world hrunning hanswer =>
      have hallowed := h.asks hrunning
      refine ⟨hkeeps.answer h.holds hallowed hanswer, fun other running hother => ?_⟩
      by_cases hsame : other = caller
      · subst hsame
        simp only [Function.update_self] at hother
        obtain rfl := Option.some.inj hother
        exact (h.safe other _ hrunning pool.world .refl).2 answer world hanswer
      · simp only [Function.update_of_ne hsame] at hother
        exact h.around hother (.inr ⟨caller, question, answer, Ne.symm hsame, hallowed, hanswer⟩)
  | stop caller =>
      refine ⟨h.holds, fun other running hrunning => ?_⟩
      by_cases hother : other = caller
      · subst hother
        simp only [Function.update_self] at hrunning
        cases hrunning
      · simp only [Function.update_of_ne hother] at hrunning
        exact h.safe other running hrunning

/-- Every pool that callers reach from an idle world is sound. -/
theorem sound_of_reachable (hkeeps : commons.Keeps allows starts inv) {world : World}
    (hinit : inv world)
    (hreach : Transition.Reachable (Moves commons starts) (Pool.idle world) pool) :
    Sound commons allows inv pool :=
  hreach.invariant (Sound.idle hinit) fun _ _ h hmoves => h.moves hkeeps hmoves

end Pool

end

end DodgingInfinity
