import DodgingInfinity.Herdr.Turns
import DodgingInfinity.Library.Transition

/-!
# Runs of the turn observer

What one role's observation does to the record is one of four steps.  Each keeps
every turn in its place, leaves a closed turn alone and opens no second turn of a
role, so a pass and a run of passes do.
-/

namespace DodgingInfinity.Herdr

open Checked Relation Transition

variable {turns before middle after : List Turn} {pass : TurnPass} {logical agent : String}

/-! ## Which observations raise nothing -/

/-- The observation of one role raises nothing: what it would open can be attributed,
and the artifact of a turn that has settled is asked for. -/
structure RoleObservable (turns : List Turn) (pass : TurnPass) (logical : String) : Prop where
  named : NoneOpen turns logical → IsOneOf workingStatuses (pass.status logical) →
    pass.turnId logical ≠ "" ∧ logical ≠ ""
  probed : ∀ record : Turn, ∀ index : Nat, turns[index]? = some record →
    record.logical = logical → record.outcome = .running → record.Expects →
      IsOneOf settledStatuses (pass.status logical) → pass.artifactProbe ≠ none

/-- The passes that raise nothing on a record. -/
structure Meets (turns : List Turn) (pass : TurnPass) : Prop where
  task : pass.taskId ≠ ""
  roles : ∀ role ∈ pass.agents, RoleObservable turns pass role.1

variable {record : Turn}

theorem artifactPresent_eq_some : artifactPresent pass record = some true ↔ ∃ probe artifact,
      pass.artifactProbe = some probe ∧ record.expectedArtifact = some artifact ∧
        artifact ≠ "" ∧ probe artifact = true := by
  unfold artifactPresent
  cases pass.artifactProbe with
  | none => simp
  | some probe =>
      cases record.expectedArtifact with
      | none => simp
      | some artifact => by_cases hempty : artifact = "" <;> simp [hempty]

/-- Where the artifact of a turn is asked for, the answer is one of the two. -/
theorem artifactPresent_of_expects (hexpects : record.Expects)
    (hprobe : pass.artifactProbe ≠ none) :
    artifactPresent pass record = some true ∨ artifactPresent pass record = some false := by
  obtain ⟨artifact, hartifact, hnonempty⟩ := hexpects
  obtain ⟨probe, hsome⟩ := Option.ne_none_iff_exists'.mp hprobe
  simp only [artifactPresent, hsome, hartifact, if_pos hnonempty]
  cases probe artifact with
  | true => exact Or.inl rfl
  | false => exact Or.inr rfl

variable {observed : Observed}

theorem openRole_meets (hnone : NoneOpen observed.turns logical)
    (htask : pass.taskId ≠ "") (hrole : RoleObservable observed.turns pass logical) :
    ∃ next, openRole pass observed logical agent = .ok next := by
  unfold openRole
  split
  · rename_i hworking
    obtain ⟨hturn, hlogical⟩ := hrole.named hnone hworking
    obtain ⟨opened, hnew⟩ : ∃ opened, newTurn (pass.turnId logical) pass.taskId logical agent
        (pass.expected logical) pass.observerBuild pass.now = .ok opened :=
      ⟨_, newTurn_eq_ok.mpr ⟨hturn, htask, hlogical, rfl⟩⟩
    rw [hnew]
    exact ⟨_, rfl⟩
  · exact ⟨observed, rfl⟩

variable {index : Nat}

theorem followRole_meets [Shown]
    (hrecord : observed.turns[index]? = some record) (hlogical : record.logical = logical)
    (hopen : record.outcome = .running) (hrole : RoleObservable observed.turns pass logical) :
    ∃ next, followRole pass observed logical record index = .ok next := by
  simp only [followRole]
  split
  · split
    · exact ⟨_, rfl⟩
    · exact ⟨_, rfl⟩
  · rename_i outcome hderived
    obtain ⟨-, hcause, hcompleted⟩ := derive_outcome hderived
    have hfailure : ¬ (outcome ∈ failureOutcomes ∧
        ((derive record (pass.status logical) (artifactPresent pass record) false).cause = none ∨
          (derive record (pass.status logical) (artifactPresent pass record) false).cause =
            some "")) := by
      rintro ⟨hmem, habsent⟩
      obtain ⟨text, htext, hnonempty⟩ := hcause hmem
      rcases habsent with habsent | habsent
      · rw [htext] at habsent
        cases habsent
      · rw [htext] at habsent
        exact hnonempty (Option.some.inj habsent)
    have hpresent : ¬ (outcome = .completed ∧ record.Expects ∧
        artifactPresent pass record ≠ some true) := by
      rintro ⟨hdone, hexpects, habsent⟩
      obtain ⟨hsettled, hfound⟩ := hcompleted hdone
      have hprobe := hrole.probed record index hrecord hlogical hopen hexpects hsettled
      rcases artifactPresent_of_expects hexpects hprobe with htrue | hfalse
      · exact habsent htrue
      · exact hfound hfalse
    obtain ⟨closed, hclose⟩ : ∃ closed, close record outcome
        (derive record (pass.status logical) (artifactPresent pass record) false).cause
        (artifactPresent pass record) pass.now = .ok closed :=
      ⟨_, close_eq_ok.mpr ⟨hfailure, hpresent, rfl⟩⟩
    rw [hclose]
    exact ⟨_, rfl⟩

theorem observeRole_meets [Shown] (htask : pass.taskId ≠ "")
    (hrole : RoleObservable observed.turns pass logical) :
    ∃ next, observeRole pass observed logical agent = .ok next := by
  unfold observeRole
  split
  · rename_i hnone
    exact openRole_meets (openTurnOf_eq_none.mp hnone) htask hrole
  · rename_i record index hfound
    obtain ⟨hrecord, hlogical, hopen⟩ := openTurnOf_eq_some hfound
    exact followRole_meets hrecord hlogical hopen hrole

/-! ## What an observation does -/

variable {next : Observed}

theorem openRole_step (hnone : NoneOpen observed.turns logical)
    (h : openRole pass observed logical agent = .ok next) :
    RoleStep pass logical observed.turns next.turns ∧
      (next.changed = false → next = observed) := by
  unfold openRole at h
  split at h
  · obtain ⟨opened, hnew, hnext⟩ := (bind_eq_ok ..).mp h
    obtain ⟨-, -, -, rfl⟩ := newTurn_eq_ok.mp hnew
    obtain rfl := (pure_eq_ok ..).mp hnext
    exact ⟨.opened _ hnone rfl rfl rfl rfl, by simp⟩
  · obtain rfl := (pure_eq_ok ..).mp h
    exact ⟨.same, fun _ => rfl⟩

theorem followRole_step [Shown]
    (hrecord : observed.turns[index]? = some record) (hlogical : record.logical = logical)
    (hopen : record.outcome = .running)
    (h : followRole pass observed logical record index = .ok next) :
    RoleStep pass logical observed.turns next.turns ∧
      (next.changed = false → next = observed) := by
  simp only [followRole] at h
  split at h
  · split at h
    · obtain rfl := (pure_eq_ok ..).mp h
      exact ⟨.noted record index _ hrecord hlogical hopen, by simp⟩
    · obtain rfl := (pure_eq_ok ..).mp h
      exact ⟨.same, fun _ => rfl⟩
  · rename_i outcome hderived
    obtain ⟨closed, hclose, hnext⟩ := (bind_eq_ok ..).mp h
    obtain rfl := (pure_eq_ok ..).mp hnext
    obtain ⟨-, hpresent, rfl⟩ := close_eq_ok.mp hclose
    obtain ⟨hover, hcause, -⟩ := derive_outcome hderived
    refine ⟨.closed record index outcome _ hrecord hlogical hopen hover hcause ?_, by simp⟩
    intro hdone hexpects
    by_contra habsent
    exact hpresent ⟨hdone, hexpects, habsent⟩

theorem observeRole_step [Shown] (h : observeRole pass observed logical agent = .ok next) :
    RoleStep pass logical observed.turns next.turns ∧
      (next.changed = false → next = observed) := by
  unfold observeRole at h
  split at h
  · rename_i hnone
    exact openRole_step (openTurnOf_eq_none.mp hnone) h
  · rename_i record index hfound
    obtain ⟨hrecord, hlogical, hopen⟩ := openTurnOf_eq_some hfound
    exact followRole_step hrecord hlogical hopen h

/-! ## What one step keeps -/

/-- No role has two open turns. -/
def OneOpen (turns : List Turn) : Prop :=
  ∀ first second : Nat, ∀ one other : Turn, turns[first]? = some one →
    turns[second]? = some other → one.logical = other.logical → one.outcome = .running →
      other.outcome = .running → first = second

/-- Every turn that was closed as a failure has a cause. -/
def Caused (turns : List Turn) : Prop :=
  ∀ index : Nat, ∀ turn : Turn, turns[index]? = some turn → turn.outcome ∈ failureOutcomes →
    ∃ text, turn.cause = some text ∧ text ≠ ""

/-- The later record is of the same turn. -/
structure SameTurn (turn later : Turn) : Prop where
  turnId : later.turnId = turn.turnId
  taskId : later.taskId = turn.taskId
  logical : later.logical = turn.logical
  agent : later.agent = turn.agent
  expected : later.expectedArtifact = turn.expectedArtifact
  openedAt : later.openedAt = turn.openedAt

theorem SameTurn.refl (turn : Turn) : SameTurn turn turn := ⟨rfl, rfl, rfl, rfl, rfl, rfl⟩

variable {turn : Turn}

theorem SameTurn.trans {later last : Turn} (h : SameTurn turn later)
    (hlast : SameTurn later last) : SameTurn turn last :=
  ⟨hlast.turnId.trans h.turnId, hlast.taskId.trans h.taskId, hlast.logical.trans h.logical,
    hlast.agent.trans h.agent, hlast.expected.trans h.expected, hlast.openedAt.trans h.openedAt⟩

/-- Every turn stays in its place, and a closed one as it is. -/
def Kept (before after : List Turn) : Prop :=
  ∀ index : Nat, ∀ turn : Turn, before[index]? = some turn → ∃ later,
    after[index]? = some later ∧ SameTurn turn later ∧ (turn.outcome ≠ .running → later = turn)

theorem Kept.refl (turns : List Turn) : Kept turns turns :=
  fun _ turn hturn => ⟨turn, hturn, .refl turn, fun _ => rfl⟩

theorem Kept.trans (h : Kept before middle) (hlast : Kept middle after) : Kept before after := by
  intro index turn hturn
  obtain ⟨later, hlater, hsame, hclosed⟩ := h index turn hturn
  obtain ⟨last, hlastTurn, hsameLast, hclosedLast⟩ := hlast index later hlater
  refine ⟨last, hlastTurn, hsame.trans hsameLast, ?_⟩
  intro hover
  obtain rfl := hclosed hover
  exact hclosedLast hover

/-- The artifact of the turn was asked for in the pass, and was there. -/
def Produced (pass : TurnPass) (turn : Turn) : Prop :=
  ∃ probe artifact, pass.artifactProbe = some probe ∧
    turn.expectedArtifact = some artifact ∧ probe artifact = true

/-- What a pass, or a part of one, does to the record. -/
structure PassKeeps (pass : TurnPass) (before after : List Turn) : Prop where
  kept : Kept before after
  attributed : ∀ index : Nat, ∀ turn : Turn, after[index]? = some turn →
    before[index]? = none → turn.taskId = pass.taskId
  produced : ∀ index : Nat, ∀ turn : Turn, after[index]? = some turn →
    turn.outcome = .completed → turn.Expects → before[index]? = some turn ∨ Produced pass turn

theorem PassKeeps.refl (pass : TurnPass) (turns : List Turn) : PassKeeps pass turns turns where
  kept := .refl turns
  attributed index turn hturn hnone := by
    rw [hnone] at hturn
    cases hturn
  produced index turn hturn _ _ := Or.inl hturn

theorem PassKeeps.trans (h : PassKeeps pass before middle) (hlast : PassKeeps pass middle after) :
    PassKeeps pass before after where
  kept := h.kept.trans hlast.kept
  attributed index turn hturn hnone := by
    cases hmiddle : middle[index]? with
    | none => exact hlast.attributed index turn hturn hmiddle
    | some earlier =>
        obtain ⟨later, hlater, hsame, -⟩ := hlast.kept index earlier hmiddle
        obtain rfl : later = turn := Option.some.inj (hlater.symm.trans hturn)
        exact hsame.taskId.trans (h.attributed index earlier hmiddle hnone)
  produced index turn hturn hdone hexpects := by
    rcases hlast.produced index turn hturn hdone hexpects with hearlier | hproduced
    · exact h.produced index turn hearlier hdone hexpects
    · exact Or.inr hproduced

/-- What every observed record is: no role is at two turns, and failures are explained. -/
structure Sound (turns : List Turn) : Prop where
  oneOpen : OneOpen turns
  caused : Caused turns

theorem getElem?_concat {found : Turn} (h : (turns ++ [turn])[index]? = some found) :
    turns[index]? = some found ∨ (turns[index]? = none ∧ found = turn) := by
  rcases Nat.lt_or_ge index turns.length with hlt | hge
  · rw [List.getElem?_append_left hlt] at h
    exact Or.inl h
  · rw [List.getElem?_append_right hge] at h
    have hfound := List.mem_singleton.mp (List.mem_of_getElem? h)
    exact Or.inr ⟨List.getElem?_eq_none hge, hfound⟩

/-- A turn that is opened where none is open. -/
theorem sound_concat (hsound : Sound turns) (hnone : NoneOpen turns turn.logical)
    (hrunning : turn.outcome = .running) : Sound (turns ++ [turn]) where
  oneOpen := by
    intro first second one other hone hother hsame hopen hopenOther
    have hfresh : ∀ index : Nat, ∀ found : Turn, turns[index]? = some found →
        found.logical = turn.logical → found.outcome ≠ .running :=
      fun index found hfound => hnone found (List.mem_of_getElem? hfound)
    rcases getElem?_concat hone with honeOld | ⟨hfirst, honeNew⟩
    · rcases getElem?_concat hother with hotherOld | ⟨-, hotherNew⟩
      · exact hsound.oneOpen first second one other honeOld hotherOld hsame hopen hopenOther
      · rw [hotherNew] at hsame
        exact absurd hopen (hfresh first one honeOld hsame)
    · rcases getElem?_concat hother with hotherOld | ⟨hsecond, -⟩
      · rw [honeNew] at hsame
        exact absurd hopenOther (hfresh second other hotherOld hsame.symm)
      · rw [List.getElem?_eq_none_iff] at hfirst hsecond
        have hbound := (List.getElem?_eq_some_iff.mp hone).1
        have hboundOther := (List.getElem?_eq_some_iff.mp hother).1
        simp only [List.length_append, List.length_singleton] at hbound hboundOther
        omega
  caused := by
    intro index found hfound hfailed
    rcases getElem?_concat hfound with hfound | ⟨-, rfl⟩
    · exact hsound.caused index found hfound hfailed
    · rw [hrunning] at hfailed
      simp [failureOutcomes] at hfailed

theorem passKeeps_concat (htask : turn.taskId = pass.taskId)
    (hrunning : turn.outcome = .running) : PassKeeps pass turns (turns ++ [turn]) where
  kept index found hfound := by
    refine ⟨found, ?_, .refl found, fun _ => rfl⟩
    rw [List.getElem?_append_left (List.getElem?_eq_some_iff.mp hfound).1]
    exact hfound
  attributed index found hfound hnone := by
    rcases getElem?_concat hfound with hfound | ⟨-, rfl⟩
    · rw [hnone] at hfound
      cases hfound
    · exact htask
  produced index found hfound hdone _ := by
    rcases getElem?_concat hfound with hfound | ⟨-, rfl⟩
    · exact Or.inl hfound
    · rw [hrunning] at hdone
      cases hdone

variable {place : Nat}

theorem getElem?_set_some {found : Turn} (h : (turns.set place turn)[index]? = some found) :
    (index = place ∧ found = turn) ∨ (index ≠ place ∧ turns[index]? = some found) := by
  rw [List.getElem?_set] at h
  split at h
  · rename_i hplace
    split at h
    · exact Or.inl ⟨hplace.symm, (Option.some.inj h).symm⟩
    · cases h
  · rename_i hplace
    exact Or.inr ⟨fun heq => hplace heq.symm, h⟩

/-- An open turn that is noted or closed. -/
theorem sound_set {next : Turn} (hsound : Sound turns)
    (hrecord : turns[place]? = some record) (hopen : record.outcome = .running)
    (hsame : SameTurn record next)
    (hcaused : next.outcome ∈ failureOutcomes → ∃ text, next.cause = some text ∧ text ≠ "") :
    Sound (turns.set place next) where
  oneOpen := by
    -- an open turn of the new record was open, and of the same role, in the old one
    have hearlier : ∀ index : Nat, ∀ found : Turn, (turns.set place next)[index]? = some found →
        found.outcome = .running → ∃ earlier : Turn, turns[index]? = some earlier ∧
          earlier.logical = found.logical ∧ earlier.outcome = .running := by
      intro index found hfound hrunning
      rcases getElem?_set_some hfound with ⟨rfl, rfl⟩ | ⟨-, hfound⟩
      · exact ⟨record, hrecord, hsame.logical.symm, hopen⟩
      · exact ⟨found, hfound, rfl, hrunning⟩
    intro first second one other hone hother hlogical hrunning hrunningOther
    obtain ⟨earlier, hfirst, hfirstRole, hfirstOpen⟩ := hearlier first one hone hrunning
    obtain ⟨other', hsecond, hsecondRole, hsecondOpen⟩ :=
      hearlier second other hother hrunningOther
    exact hsound.oneOpen first second earlier other' hfirst hsecond
      (hfirstRole.trans (hlogical.trans hsecondRole.symm)) hfirstOpen hsecondOpen
  caused := by
    intro index found hfound hfailed
    rcases getElem?_set_some hfound with ⟨rfl, rfl⟩ | ⟨-, hfound⟩
    · exact hcaused hfailed
    · exact hsound.caused index found hfound hfailed

theorem passKeeps_set {next : Turn} (hrecord : turns[place]? = some record)
    (hopen : record.outcome = .running) (hsame : SameTurn record next)
    (hproduced : next.outcome = .completed → next.Expects → Produced pass next) :
    PassKeeps pass turns (turns.set place next) where
  kept index found hfound := by
    by_cases hplace : index = place
    · subst hplace
      obtain rfl : record = found := Option.some.inj (hrecord.symm.trans hfound)
      exact ⟨next, List.getElem?_set_self (List.getElem?_eq_some_iff.mp hrecord).1, hsame,
        fun hover => absurd hopen hover⟩
    · refine ⟨found, ?_, .refl found, fun _ => rfl⟩
      rw [List.getElem?_set_ne (Ne.symm hplace)]
      exact hfound
  attributed index found hfound hnone := by
    rcases getElem?_set_some hfound with ⟨rfl, rfl⟩ | ⟨-, hfound⟩
    · rw [hnone] at hrecord
      cases hrecord
    · rw [hnone] at hfound
      cases hfound
  produced index found hfound hdone hexpects := by
    rcases getElem?_set_some hfound with ⟨rfl, rfl⟩ | ⟨-, hfound⟩
    · exact Or.inr (hproduced hdone hexpects)
    · exact Or.inl hfound

theorem set_others {next : Turn}
    (hrecord : turns[place]? = some record) (hlogical : record.logical = logical)
    (hother : turn.logical ≠ logical) (hnext : next.logical = record.logical) :
    (turns.set place next)[index]? = some turn ↔ turns[index]? = some turn := by
  by_cases hplace : index = place
  · subst hplace
    rw [List.getElem?_set_self (List.getElem?_eq_some_iff.mp hrecord).1, hrecord]
    constructor
    · rintro hturn
      obtain rfl := Option.some.inj hturn
      exact absurd (hnext.trans hlogical) hother
    · rintro hturn
      obtain rfl := Option.some.inj hturn
      exact absurd hlogical hother
  · rw [List.getElem?_set_ne (Ne.symm hplace)]

theorem RoleStep.sound (h : RoleStep pass logical before after) (hsound : Sound before) :
    Sound after := by
  cases h with
  | same => exact hsound
  | opened turn hnone hlogical _ hrunning _ =>
      subst hlogical
      exact sound_concat hsound hnone hrunning
  | noted record index cause hrecord _ hopen =>
      refine sound_set hsound hrecord hopen ⟨rfl, rfl, rfl, rfl, rfl, rfl⟩ ?_
      intro hfailed
      simp [hopen, failureOutcomes] at hfailed
  | closed record index outcome cause hrecord _ hopen _ hcause _ =>
      exact sound_set hsound hrecord hopen ⟨rfl, rfl, rfl, rfl, rfl, rfl⟩ hcause

theorem RoleStep.keeps (h : RoleStep pass logical before after) : PassKeeps pass before after := by
  cases h with
  | same => exact .refl pass before
  | opened turn _ _ htask hrunning _ => exact passKeeps_concat htask hrunning
  | noted record index cause hrecord _ hopen =>
      refine passKeeps_set hrecord hopen ⟨rfl, rfl, rfl, rfl, rfl, rfl⟩ ?_
      intro hdone
      simp [hopen] at hdone
  | closed record index outcome cause hrecord _ hopen _ _ hpresent =>
      refine passKeeps_set hrecord hopen ⟨rfl, rfl, rfl, rfl, rfl, rfl⟩ ?_
      intro hdone hexpects
      obtain ⟨probe, artifact, hprobe, hartifact, -, hfound⟩ :=
        artifactPresent_eq_some.mp (hpresent hdone hexpects)
      exact ⟨probe, artifact, hprobe, hartifact, hfound⟩

/-- The turns of the other roles are what they were. -/
theorem RoleStep.others (h : RoleStep pass logical before after) (hother : turn.logical ≠ logical) :
    after[index]? = some turn ↔ before[index]? = some turn := by
  cases h with
  | same => rfl
  | opened opened _ hlogical _ _ _ =>
      constructor
      · intro hturn
        rcases getElem?_concat hturn with hturn | ⟨-, rfl⟩
        · exact hturn
        · exact absurd hlogical hother
      · intro hturn
        rw [List.getElem?_append_left (List.getElem?_eq_some_iff.mp hturn).1]
        exact hturn
  | noted record place cause hrecord hlogical _ =>
      exact set_others hrecord hlogical hother rfl
  | closed record place outcome cause hrecord hlogical _ _ _ _ =>
      exact set_others hrecord hlogical hother rfl

/-- What the other roles need of a pass is untouched. -/
theorem RoleObservable.others {other : String} (hstep : RoleStep pass logical before after)
    (hother : other ≠ logical) (hrole : RoleObservable before pass other) :
    RoleObservable after pass other where
  named := by
    intro hnone hworking
    refine hrole.named ?_ hworking
    intro turn hmem hlogical
    obtain ⟨index, hindex⟩ := List.mem_iff_getElem?.mp hmem
    have hrest : turn.logical ≠ logical := by
      rw [hlogical]
      exact hother
    exact hnone turn (List.mem_of_getElem? ((hstep.others hrest).mpr hindex)) hlogical
  probed := by
    intro record index hrecord hlogical hopen hexpects hsettled
    have hrest : record.logical ≠ logical := by
      rw [hlogical]
      exact hother
    exact hrole.probed record index ((hstep.others hrest).mp hrecord) hlogical hopen hexpects
      hsettled

/-! ## Passes and runs -/

/-- What a pass that raises nothing has done, from the roles it has yet to ask. -/
structure Passed (pass : TurnPass) (observed final : Observed) : Prop where
  sound : Sound observed.turns → Sound final.turns
  keeps : PassKeeps pass observed.turns final.turns
  unchanged : final.changed = false → final = observed

theorem observeRoles_meets [Shown] (htask : pass.taskId ≠ "") (roles : List (String × String)) :
    ∀ observed : Observed, (roles.map Prod.fst).Nodup →
      (∀ role ∈ roles, RoleObservable observed.turns pass role.1) →
      ∃ final, observeRoles pass observed roles = .ok final ∧ Passed pass observed final := by
  induction roles with
  | nil =>
      intro observed _ _
      exact ⟨observed, rfl, id, .refl pass observed.turns, fun _ => rfl⟩
  | cons role rest ih =>
      intro observed hdistinct hroles
      rw [List.map_cons, List.nodup_cons] at hdistinct
      obtain ⟨hfresh, hrest⟩ := hdistinct
      obtain ⟨next, hnext⟩ : ∃ next, observeRole pass observed role.1 role.2 = .ok next :=
        observeRole_meets htask (hroles role (List.mem_cons_self ..))
      obtain ⟨hstep, hsame⟩ := observeRole_step hnext
      have hothers : ∀ other ∈ rest, RoleObservable next.turns pass other.1 := by
        intro other hmem
        refine RoleObservable.others hstep ?_ (hroles other (List.mem_cons_of_mem _ hmem))
        intro heq
        exact hfresh (heq ▸ List.mem_map_of_mem hmem)
      obtain ⟨final, hfinal, hpassed⟩ := ih next hrest hothers
      refine ⟨final, (bind_eq_ok ..).mpr ⟨next, hnext, hfinal⟩, ?_, ?_, ?_⟩
      · intro hsound
        exact hpassed.sound (hstep.sound hsound)
      · exact hstep.keeps.trans hpassed.keeps
      · intro hunchanged
        have hlast := hpassed.unchanged hunchanged
        rw [hlast] at hunchanged
        exact hlast.trans (hsame hunchanged)

/-- A pass that meets its conditions raises nothing; what it leaves is what it saved. -/
theorem observeControlRoles_meets [Shown] (h : Meets turns pass) :
    ∃ observed, observeControlRoles turns pass = .ok observed ∧
      afterPass turns pass = observed.turns ∧ (Sound turns → Sound observed.turns) ∧
        PassKeeps pass turns observed.turns := by
  have hdistinct : ((sortedBy Prod.fst pass.agents).map Prod.fst).Nodup :=
    ((sortedBy_perm Prod.fst pass.agents).map Prod.fst).nodup_iff.mpr pass.distinct
  obtain ⟨observed, hobserved, hpassed⟩ := observeRoles_meets h.task
    (sortedBy Prod.fst pass.agents) ⟨turns, [], false⟩ hdistinct
    (fun role hrole => h.roles role ((mem_sortedBy ..).mp hrole))
  have hok : observeControlRoles turns pass = .ok observed := by
    rw [observeControlRoles, if_neg h.task]
    exact hobserved
  refine ⟨observed, hok, ?_, hpassed.sound, hpassed.keeps⟩
  rw [afterPass, hok]
  cases hchanged : observed.changed with
  | true => simp [hchanged]
  | false => simp [hpassed.unchanged hchanged]

/-- One pass of the observer, over roles it can attribute, that asks for the artifact
of every turn that has settled. -/
def Observes [Shown] (turns next : List Turn) : Prop :=
  ∃ pass, Meets turns pass ∧ next = afterPass turns pass

theorem Observes.kept [Shown] {next : List Turn} (h : Observes turns next) : Kept turns next := by
  obtain ⟨pass, hmeets, rfl⟩ := h
  obtain ⟨observed, -, hsaved, -, hkeeps⟩ := observeControlRoles_meets hmeets
  rw [hsaved]
  exact hkeeps.kept

theorem Observes.sound [Shown] {next : List Turn} (h : Observes turns next) (hsound : Sound turns) :
    Sound next := by
  obtain ⟨pass, hmeets, rfl⟩ := h
  obtain ⟨observed, -, hsaved, hnext, -⟩ := observeControlRoles_meets hmeets
  rw [hsaved]
  exact hnext hsound

theorem sound_of_reachable [Shown] (h : Reachable Observes [] turns) : Sound turns := by
  have hinit : Sound [] := ⟨by simp [OneOpen], by simp [Caused]⟩
  exact h.invariant hinit (fun _ _ hsound hstep => hstep.sound hsound)

/--
Over every run of passes from an empty record that can attribute what they open and
ask for the artifact of every turn they find settled, no pass raises, each role has at
most one open turn, every turn keeps its place and its task, a closed turn never
changes, failures name a cause, and a turn that expected an artifact is completed only
in a pass that found it.
-/
theorem observer_keeps_turns [Shown] (turns : List Turn) (h : Reachable Observes [] turns) :
    Sound turns ∧
    (∀ pass, Meets turns pass → ∃ observed, observeControlRoles turns pass = .ok observed ∧
      afterPass turns pass = observed.turns ∧ PassKeeps pass turns observed.turns) ∧
    ∀ later, ReflTransGen Observes turns later → Sound later ∧ Kept turns later := by
  refine ⟨sound_of_reachable h, ?_, ?_⟩
  · intro pass hmeets
    obtain ⟨observed, hok, hsaved, -, hkeeps⟩ := observeControlRoles_meets hmeets
    exact ⟨observed, hok, hsaved, hkeeps⟩
  · intro later hrun
    have hkept : Kept turns later :=
      h.related Kept.refl (fun _ _ _ hfirst hlast => hfirst.trans hlast)
        (fun _ _ _ hstep => hstep.kept) hrun
    exact ⟨sound_of_reachable (h.run hrun), hkept⟩

/-- One engineer that is to write its notes, observed at a status. -/
def engineerPass (status : String) (artifactProbe : Option (String → Bool)) (now : Int) :
    TurnPass where
  agents := [("engineer", "codex-1")]
  distinct := by decide
  taskId := "task-1"
  status _ := some status
  expected _ := some "notes.md"
  turnId _ := "engineer-1"
  artifactProbe := artifactProbe
  observerBuild := none
  now := now

/-- The turn that the engineer opens. -/
def engineerTurn : Turn where
  turnId := "engineer-1"
  taskId := "task-1"
  logical := "engineer"
  agent := "codex-1"
  outcome := .running
  cause := none
  expectedArtifact := some "notes.md"
  artifactPresent := none
  openedAt := 10
  closedAt := none
  observerBuild := none
  routedAt := none
  effectObservedAt := none

/-- A pass without an artifact probe raises on the turn that an earlier pass opened
for an artifact, and so does every such pass after it. -/
theorem unprobed_pass_raises :
    letI : Shown := ⟨fun status => status.getD ""⟩
    afterPass [] (engineerPass "working" none 10) = [engineerTurn] ∧
      observeControlRoles [engineerTurn] (engineerPass "idle" none 20) = .error .artifactAbsent ∧
      afterPass [engineerTurn] (engineerPass "idle" none 20) = [engineerTurn] := by
  exact ⟨rfl, rfl, rfl⟩

theorem engineer_opens [Shown] : afterPass [] (engineerPass "working" none 10) =
    [engineerTurn] := by
  rfl

theorem engineer_working_meets : Meets [] (engineerPass "working" none 10) where
  task := by decide
  roles := by
    intro role hrole
    obtain rfl := List.mem_singleton.mp hrole
    exact ⟨fun _ _ => by decide, by simp⟩

theorem engineer_probed_meets :
    Meets [engineerTurn] (engineerPass "idle" (some fun _ => true) 20) where
  task := by decide
  roles := by
    intro role hrole
    obtain rfl := List.mem_singleton.mp hrole
    exact ⟨fun _ _ => by decide, by simp [engineerPass]⟩

theorem observer_keeps_turns_sample :
    letI : Shown := ⟨fun status => status.getD ""⟩
    Sound [engineerTurn] ∧ ∃ observed, observeControlRoles [engineerTurn]
        (engineerPass "idle" (some fun _ => true) 20) = .ok observed := by
  let _ : Shown := ⟨fun status => status.getD ""⟩
  have hreached : Reachable Observes [] [engineerTurn] :=
    Reachable.start.tail ⟨engineerPass "working" none 10, engineer_working_meets,
      engineer_opens.symm⟩
  obtain ⟨hsound, hpass, -⟩ := observer_keeps_turns [engineerTurn] hreached
  obtain ⟨observed, hok, -, -⟩ := hpass _ engineer_probed_meets
  exact ⟨hsound, observed, hok⟩

end DodgingInfinity.Herdr
