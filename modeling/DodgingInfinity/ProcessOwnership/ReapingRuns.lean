import DodgingInfinity.ProcessOwnership.Reaping
import Mathlib.Data.List.Dedup

/-!
# Reaps over runs

Every step of every caller, and every end and beginning of a process group, keeps the
records on disk true of the groups that hold the numbers.  What a recovery kills is then
the group of the root it found; what the ledger's paths kill is a recorded group exactly
when the number was not handed out again.
-/

namespace DodgingInfinity.ProcessOwnership

open TargetBroker (strip)
open Checked (bind_eq_ok pure_eq_ok)

variable {Caller : Type} [DecidableEq Caller]

/-! ## Writing and reading records -/

section

variable {roots : List Root} {ledgers : Ledgers} {name nonce : List Char} {number pgid : Int}

theorem written_stampStart {start : Option (List Char)} (h : Written roots ledgers nonce number) :
    Written (stampStart name start roots) ledgers nonce number := by
  rcases h with hrow | ⟨root, hmem, hname, hgroup⟩
  · exact Or.inl hrow
  · refine Or.inr ⟨_, List.mem_map_of_mem hmem, ?_, ?_⟩ <;> cases start <;> simp only <;> try split
    all_goals first | exact hname | exact hgroup

theorem unwritten_stampStart {start : Option (List Char)} (h : Unwritten roots ledgers nonce) :
    Unwritten (stampStart name start roots) ledgers nonce := by
  refine ⟨h.1, ?_⟩
  intro root hmem hname
  obtain ⟨earlier, hearlier, hsame, hgroup, -⟩ := mem_stampStart hmem
  rw [hgroup]
  exact h.2 earlier hearlier (hsame.symm.trans hname)

theorem written_writeNonce (h : Written roots ledgers nonce number) :
    Written (writeNonce name roots) ledgers nonce number := by
  rcases h with hrow | ⟨root, hmem, hname, hgroup⟩
  · exact Or.inl hrow
  · refine Or.inr ⟨_, List.mem_map_of_mem hmem, ?_, ?_⟩ <;> split
    all_goals first | exact hname | exact hgroup

theorem unwritten_writeNonce (h : Unwritten roots ledgers nonce) :
    Unwritten (writeNonce name roots) ledgers nonce := by
  refine ⟨h.1, ?_⟩
  intro root hmem hname
  obtain ⟨earlier, hearlier, hsame, hgroup, -⟩ := mem_writeNonce hmem
  rw [hgroup]
  exact h.2 earlier hearlier (hsame.symm.trans hname)

theorem written_createRoot (h : Written roots ledgers nonce number) :
    Written (roots ++ [bareRoot name]) ledgers nonce number := by
  rcases h with hrow | ⟨root, hmem, hboth⟩
  · exact Or.inl hrow
  · exact Or.inr ⟨root, List.mem_append_left _ hmem, hboth⟩

theorem unwritten_createRoot (h : Unwritten roots ledgers nonce) :
    Unwritten (roots ++ [bareRoot name]) ledgers nonce := by
  refine ⟨h.1, ?_⟩
  intro root hmem hname
  rcases List.mem_append.mp hmem with hmem | hmem
  · exact h.2 root hmem hname
  · cases List.mem_singleton.mp hmem
    rfl

theorem written_recordPending {directory : Option String} (h : Written roots ledgers nonce number) :
    Written roots (recordPending name directory ledgers) nonce number := by
  cases directory with
  | none => exact h
  | some place =>
      rcases h with ⟨found, hrow⟩ | hroot
      · exact Or.inl ⟨found, List.mem_append_left _ hrow⟩
      · exact Or.inr hroot

theorem unwritten_recordPending {directory : Option String} (h : Unwritten roots ledgers nonce) :
    Unwritten roots (recordPending name directory ledgers) nonce := by
  cases directory with
  | none => exact h
  | some place =>
      refine ⟨?_, h.2⟩
      intro found pgid hmem
      rcases List.mem_append.mp hmem with hmem | hmem
      · exact h.1 found pgid hmem
      · cases List.mem_singleton.mp hmem

theorem written_row {place : String} (h : Written roots ledgers nonce number) :
    Written roots (recordOwnedGroup pgid name (some place) ledgers) nonce number := by
  rcases h with ⟨found, hrow⟩ | hroot
  · exact Or.inl ⟨found, List.mem_append_left _ hrow⟩
  · exact Or.inr hroot

theorem unwritten_row {place : String} (hne : nonce ≠ name) (h : Unwritten roots ledgers nonce) :
    Unwritten roots (recordOwnedGroup pgid name (some place) ledgers) nonce := by
  refine ⟨?_, h.2⟩
  intro found other hmem
  rcases List.mem_append.mp hmem with hmem | hmem
  · exact h.1 found other hmem
  · cases List.mem_singleton.mp hmem
    exact hne rfl

/-- A stamp of a group leaves what is written elsewhere, and of a nonce that only this
group was begun under. -/
theorem written_stampGroup (hsame : nonce = name → number = pgid)
    (h : Written roots ledgers nonce number) :
    Written (stampGroup name pgid roots) ledgers nonce number := by
  rcases h with hrow | ⟨root, hmem, hname, hgroup⟩
  · exact Or.inl hrow
  · refine Or.inr ⟨_, List.mem_map_of_mem hmem, ?_, ?_⟩
    · split <;> exact hname
    · split
      · next hstamped => rw [hsame (hname.symm.trans hstamped)]
      · exact hgroup

theorem unwritten_stampGroup (hne : nonce ≠ name) (h : Unwritten roots ledgers nonce) :
    Unwritten (stampGroup name pgid roots) ledgers nonce := by
  refine ⟨h.1, ?_⟩
  intro root hmem hname
  obtain ⟨earlier, hearlier, hsame, -, hgroup | ⟨hstamped, -⟩⟩ := mem_stampGroup hmem
  · rw [hgroup.2]
    exact h.2 earlier hearlier (hsame.symm.trans hname)
  · exact absurd (hname.symm.trans (hsame.trans hstamped)) hne

end

/-- A number above 1 is known by its digits. -/
theorem number_of_digits {number other : Int} (hlow : 1 < number)
    (h : Nat.toDigits 10 other.toNat = Nat.toDigits 10 number.toNat) : other = number := by
  have hvalues := congrArg (fun digits => Nat.ofDigitChars 10 digits 0) h
  simp only [Nat.ofDigitChars_ten_toDigits] at hvalues
  omega

/-! ## Steps -/

section

variable {world : World Caller}

omit [DecidableEq Caller] in
theorem inv_initial : Inv (World.initial : World Caller) where
  handed := by
    constructor
    · exact fun _ _ h => by cases h
    · exact fun _ h => by cases h
    · exact fun _ h => by cases h
    · exact fun _ h => by cases h
  callers := by
    constructor
    · exact fun _ _ h => by cases h
    · exact fun _ _ _ _ h => by cases h
    · exact fun _ h => by cases h
    · exact fun _ _ h => by cases h
    · exact fun _ _ _ h => by cases h
  rooted := by
    constructor
    · exact fun _ _ h => by cases h
    · exact fun _ h => by cases h
  filed := by
    constructor
    · exact fun _ h => by cases h
    · exact fun _ h => by cases h
    · exact fun _ _ _ h => by cases h
  marked := by
    constructor
    · exact fun _ _ h => by cases h
    · exact fun _ _ h => by cases h

variable {table : ProcessTable}

omit [DecidableEq Caller] in
/-- What a process sees of the leader of a number is its start time. -/
theorem Shows.leader (h : Shows world table) {number : Int}
    {text : List Char} (hlive : leaderStartTime table number = some text) :
    ∃ holder, world.held number = some holder ∧ text = holder.start.text := by
  unfold leaderStartTime at hlive
  split at hlive
  · cases hlive
  · cases hprinted : table.started number with
    | none =>
        rw [hprinted] at hlive
        cases hlive
    | some printed =>
        rw [hprinted] at hlive
        obtain ⟨holder, hholder, -, hsame⟩ := h.started number printed hprinted
        simp only at hlive
        split at hlive
        · cases hlive
        · exact ⟨holder, hholder, (Option.some.inj hlive).symm.trans hsame⟩

theorem activity_goOn (caller : Caller) (now : Activity) :
    (world.goOn caller now).activity = Function.update world.activity caller now := rfl

/-- A caller that goes on with no spawn changes nothing else. -/
theorem Inv.rest (h : Inv world) (caller : Caller) {now : Activity}
    (hspawn : now.spawn? = none) (hchild : now.child? = none) :
    Inv (world.goOn caller now) where
  handed := h.handed
  callers := h.callers.rest caller hspawn hchild
  rooted := by
    apply h.rooted.goOn
    intro spawn hsome
    rw [hspawn] at hsome
    cases hsome
  filed := h.filed
  marked := h.marked

/-- A caller that goes on with its spawn, before or after the start of its process. -/
theorem Inv.goOn (h : Inv world) (caller : Caller) (now : Activity)
    (hspawn : now.spawn? = (world.activity caller).spawn?)
    (hchild : now.child? = (world.activity caller).child?)
    (hroot : ∀ spawn, now.spawn? = some spawn → now.hasRoot = true →
      ∃ root ∈ world.roots, root.name = spawn.nonce) :
    Inv (world.goOn caller now) where
  handed := h.handed
  callers := by
    apply h.callers.goOn
    · exact fun spawn hsome => hspawn ▸ hsome
    · exact fun _ _ hnone => hchild ▸ hnone
    · exact fun spawn number hsome => h.callers.child caller spawn number (hchild ▸ hsome)
  rooted := h.rooted.goOn caller hroot
  filed := h.filed
  marked := h.marked

variable {holder : Holder}

omit [DecidableEq Caller] in
/-- The turns of a group that keep its start time and its spawn. -/
theorem Inv.turn (h : Inv world) {number : Int} {next : Holder}
    (hheld : world.held number = some holder) (hstart : holder.start = next.start)
    (hspawn : holder.spawn = next.spawn) : Inv (world.turn number (some next)) where
  handed := h.handed.within (within_update_some hheld hstart hspawn)
  callers := h.callers.turn_some hheld hspawn.symm
  rooted := h.rooted
  filed := h.filed
  marked := h.marked.within (within_update_some hheld hstart hspawn)

omit [DecidableEq Caller] in
theorem Inv.ends (h : Inv world) {number : Int} (hcollectable : Collectable world number) :
    Inv (world.turn number none) where
  handed := h.handed.within within_update_none
  callers := h.callers.turn_none hcollectable
  rooted := h.rooted
  filed := h.filed
  marked := h.marked.within within_update_none

omit [DecidableEq Caller] in
/-- A start time that was read while its group held the number is written to its root. -/
theorem Inv.stampStart (h : Inv world) {number : Int} {nonce : List Char}
    (hheld : world.held number = some holder) (hspawn : holder.spawn = some nonce)
    (hshows : Shows world table) :
    Inv (world.stampStart nonce (leaderStartTime table number)) where
  handed := h.handed
  callers := h.callers
  rooted := h.rooted.kept namesKept_stampStart
  filed := by
    apply h.filed.stampStart (h.handed.held number holder hheld) hspawn
    intro text hlive
    obtain ⟨found, hfound, hsame⟩ := hshows.leader hlive
    rw [hheld] at hfound
    cases hfound
    exact hsame
  marked := h.marked.keeps within_self (fun _ _ => written_stampStart) fun _ => unwritten_stampStart

omit [DecidableEq Caller] in
/-- A group that holds its number is recorded in its root. -/
theorem Inv.stampGroup (h : Inv world) {number : Int} {nonce : List Char}
    (hheld : world.held number = some holder) (hspawn : holder.spawn = some nonce) :
    Inv (world.stampGroup nonce number) where
  handed := h.handed
  callers := h.callers
  rooted := h.rooted.kept namesKept_stampGroup
  filed := h.filed.stampGroup (h.handed.held number holder hheld) hspawn
  marked := by
    have hhanding := h.handed.held number holder hheld
    obtain ⟨root, hroot, hname⟩ := h.rooted.begun _ hhanding nonce hspawn
    have honly : ∀ name other, Written world.roots world.ledgers name other → name = nonce →
        other = number := by
      rintro name other (⟨place, hrow⟩ | ⟨found, hfound, hsame, hgroup⟩) rfl
      · obtain ⟨handing, hmem, hnumber, hnonce⟩ := h.filed.row place other name hrow
        exact hnumber.symm.trans
          (congrArg Handing.number (h.handed.once _ hmem _ hhanding name hnonce hspawn))
      · rcases h.filed.group found hfound with habsent | ⟨handing, hmem, hnonce, htext⟩
        · rw [habsent] at hgroup
          cases hgroup
        · rw [hsame] at hnonce
          cases h.handed.once _ hmem _ hhanding name hnonce hspawn
          rw [htext] at hgroup
          exact number_of_digits (h.handed.range _ hhanding).1 (Reading.text.inj hgroup).symm
    apply h.marked.note hheld hspawn
    · intro other rival hrival hnonce
      exact h.handed.number_unique hrival hheld hnonce hspawn
    · refine Or.inr ⟨_, List.mem_map_of_mem hroot, ?_, ?_⟩
      · split <;> exact hname
      · rw [if_pos hname]
    · exact fun name other hwritten => written_stampGroup (honly name other hwritten) hwritten
    · exact fun name hne => unwritten_stampGroup hne

omit [DecidableEq Caller] in
/-- A group that holds its number is entered in a ledger, if there is one. -/
theorem Inv.enter (h : Inv world) {pgid : Int} {spawn : Spawn}
    (hheld : world.held pgid = some holder) (hspawn : holder.spawn = some spawn.nonce) :
    Inv (world.enter spawn pgid) := by
  unfold World.enter
  cases hdirectory : spawn.directory with
  | none => exact h
  | some place =>
      refine ⟨h.handed, h.callers, h.rooted, ?_, ?_⟩
      · exact h.filed.entered (h.handed.held pgid holder hheld) hspawn (some place)
      · apply h.marked.note hheld hspawn
        · intro other rival hrival hnonce
          exact h.handed.number_unique hrival hheld hnonce hspawn
        · exact Or.inl ⟨place, List.mem_append_right _ (List.mem_singleton_self _)⟩
        · exact fun _ _ => written_row
        · exact fun _ hne => unwritten_row hne

omit [DecidableEq Caller] in
/-- A number is handed to a foreign group. -/
theorem Inv.foreign (h : Inv world) {number : Int} {start : StartTime}
    (hfree : Free world number start) : Inv (world.handOut number start none) where
  handed := h.handed.handOut hfree.range hfree.apart (fun _ hnone => by cases hnone)
  callers := by
    apply h.callers.handOut hfree.unheld (fun _ => rfl) (fun _ hnone => hnone)
    · exact fun _ _ _ hchild => Or.inl hchild
    · exact fun _ hnone => by cases hnone
  rooted := h.rooted.handOut fun _ hnone => by cases hnone
  filed := h.filed.handOut _
  marked := h.marked.handOut fun _ hnone => by cases hnone

omit [DecidableEq Caller] in
/-- Nothing on disk names the process of a spawn that has not started it. -/
theorem Inv.unwritten (h : Inv world) {nonce : List Char}
    (hbefore : ∀ handing ∈ world.handed, handing.spawn ≠ some nonce) :
    Unwritten world.roots world.ledgers nonce := by
  constructor
  · intro place number hrow
    obtain ⟨handing, hmem, -, hspawn⟩ := h.filed.row place number nonce hrow
    exact hbefore handing hmem hspawn
  · intro root hmem hname
    rcases h.filed.group root hmem with habsent | ⟨handing, hhanding, hspawn, -⟩
    · exact habsent
    · exact absurd (hname ▸ hspawn) (hbefore handing hhanding)

/-- A caller starts the process of its spawn. -/
theorem Inv.start (h : Inv world) {caller : Caller} {spawn : Spawn} {number : Int}
    {start : StartTime} (hat : world.activity caller = .starts spawn)
    (hfree : Free world number start) :
    Inv ((world.handOut number start (some spawn.nonce)).goOn caller
      (.recordsGroup spawn number)) := by
  have hmine : (world.activity caller).spawn? = some spawn := by rw [hat]; rfl
  have hnochild : (world.activity caller).child? = none := by rw [hat]; rfl
  have hbefore := h.callers.before caller spawn hmine hnochild
  obtain ⟨root, hroot, hname⟩ := h.rooted.spawning caller spawn hmine (by rw [hat]; rfl)
  refine ⟨?_, ?_, ?_, h.filed.handOut _, ?_⟩
  · apply h.handed.handOut hfree.range hfree.apart
    intro nonce hnonce
    cases hnonce
    exact hbefore
  · apply h.callers.handOut hfree.unheld
    · intro other
      by_cases hsame : other = caller
      · subst hsame
        rw [activity_goOn, Function.update_self, hmine]
        rfl
      · rw [activity_goOn, Function.update_of_ne hsame]
        rfl
    · intro other hnone
      by_cases hsame : other = caller
      · rw [hsame]
        exact hnochild
      · rw [activity_goOn, Function.update_of_ne hsame] at hnone
        exact hnone
    · intro other mine held hchild
      by_cases hsame : other = caller
      · subst hsame
        rw [activity_goOn, Function.update_self] at hchild
        cases hchild
        exact Or.inr ⟨rfl, rfl⟩
      · rw [activity_goOn, Function.update_of_ne hsame] at hchild
        exact Or.inl hchild
    · intro nonce hnonce
      cases hnonce
      refine ⟨h.callers.drawn caller spawn hmine, ?_⟩
      intro other mine hother hsame hnone
      by_cases hcaller : other = caller
      · subst hcaller
        rw [activity_goOn, Function.update_self] at hnone
        cases hnone
      · rw [activity_goOn, Function.update_of_ne hcaller] at hother
        exact hcaller (h.callers.alone other caller mine spawn hother hmine hsame)
  · apply (h.rooted.handOut fun nonce hnonce => by
      cases hnonce
      exact ⟨root, hroot, hname⟩).goOn
    intro mine hsome _
    cases hsome
    exact ⟨root, hroot, hname⟩
  · apply h.marked.handOut
    intro nonce hnonce
    cases hnonce
    exact h.unwritten hbefore

variable {next : World Caller} {signals : List Signal}

/-- Every step keeps the invariant. -/
theorem Inv.step (h : Inv world)
    (hstep : Step world signals next) : Inv next := by
  cases hstep with
  | begin caller spawn hidle hfresh =>
      refine ⟨h.handed, h.callers.begin caller hfresh, ?_, h.filed, h.marked⟩
      apply h.rooted.goOn
      intro mine hsome hroot
      cases hroot
  | recordPending caller spawn hat =>
      have hnext := h.goOn caller (.createsRoot spawn) (by rw [hat]; rfl)
        (by rw [hat]; rfl) (fun _ _ hroot => by cases hroot)
      refine ⟨hnext.handed, hnext.callers, hnext.rooted, hnext.filed.pending _ _, ?_⟩
      exact hnext.marked.keeps within_self (fun _ _ => written_recordPending)
        fun _ => unwritten_recordPending
  | createRoot caller spawn hat =>
      have hkept : NamesKept world.roots (world.roots ++ [bareRoot spawn.nonce]) :=
        fun root hmem => ⟨root, List.mem_append_left _ hmem, rfl⟩
      have hmade : Inv { world with roots := world.roots ++ [bareRoot spawn.nonce] } := by
        refine ⟨h.handed, h.callers, h.rooted.kept hkept, ?_, ?_⟩
        · apply h.filed.renewed
          intro root hmem
          rcases List.mem_append.mp hmem with hmem | hmem
          · exact Or.inl ⟨root, hmem, rfl, rfl, rfl⟩
          · cases List.mem_singleton.mp hmem
            exact Or.inr ⟨rfl, rfl⟩
        · exact h.marked.keeps within_self (fun _ _ => written_createRoot)
            fun _ => unwritten_createRoot
      apply hmade.goOn caller (.writesNonce spawn)
      · rw [hat]
        rfl
      · rw [hat]
        rfl
      · intro mine hsome _
        cases hsome
        exact ⟨bareRoot spawn.nonce, List.mem_append_right _ (List.mem_singleton_self _), rfl⟩
  | writeNonce caller spawn hat =>
      have hwritten : Inv { world with roots := writeNonce spawn.nonce world.roots } := by
        refine ⟨h.handed, h.callers, h.rooted.kept namesKept_writeNonce, ?_, ?_⟩
        · exact h.filed.renewed fun root hmem => Or.inl (mem_writeNonce hmem)
        · exact h.marked.keeps within_self (fun _ _ => written_writeNonce)
            fun _ => unwritten_writeNonce
      apply hwritten.goOn caller (.starts spawn)
      · rw [hat]
        rfl
      · rw [hat]
        rfl
      · intro mine hsome _
        cases hsome
        exact hwritten.rooted.spawning caller spawn (by rw [hat]; rfl) (by rw [hat]; rfl)
  | start caller spawn number start hat hfree => exact h.start hat hfree
  | recordGroup caller spawn pgid hat =>
      obtain ⟨holder, hheld, hspawn⟩ := h.callers.child caller spawn pgid (by rw [hat]; rfl)
      have hentered := h.enter hheld hspawn
      have hactivity : (world.enter spawn pgid).activity caller = .recordsGroup spawn pgid := by
        rw [← hat]
        unfold World.enter
        split <;> rfl
      apply hentered.goOn caller
      · rw [hactivity]
        rfl
      · rw [hactivity]
        rfl
      · intro mine hsome _
        cases hsome
        exact hentered.rooted.spawning caller spawn (by rw [hactivity]; rfl)
          (by rw [hactivity]; rfl)
  | parentStart caller spawn pgid table hat hshows =>
      obtain ⟨holder, hheld, hspawn⟩ := h.callers.child caller spawn pgid (by rw [hat]; rfl)
      have hstamped := h.stampStart hheld hspawn hshows
      apply hstamped.goOn caller
      · exact (congrArg Activity.spawn? hat).symm
      · exact (congrArg Activity.child? hat).symm
      · intro mine hsome _
        cases hsome
        exact hstamped.rooted.spawning caller spawn (congrArg Activity.spawn? hat)
          (congrArg Activity.hasRoot hat)
  | parentGroup caller spawn pgid hat =>
      obtain ⟨holder, hheld, hspawn⟩ := h.callers.child caller spawn pgid (by rw [hat]; rfl)
      exact (h.stampGroup hheld hspawn).rest caller rfl rfl
  | childStart number holder nonce table hheld hspawn hrunning hstage hshows =>
      exact (h.stampStart hheld hspawn hshows).turn hheld rfl rfl
  | childGroup number holder nonce hheld hspawn hrunning hstage =>
      exact (h.stampGroup hheld hspawn).turn hheld rfl rfl
  | crash caller => exact h.rest caller rfl rfl
  | leaderExits number holder hheld hrunning => exact h.turn hheld rfl rfl
  | leaderCollected number holder hheld hcollectable => exact h.turn hheld rfl rfl
  | groupEnds number hcollectable => exact h.ends hcollectable
  | foreign number start hfree => exact h.foreign hfree
  | reap caller directory own pgid polls table hidle hshows => exact h
  | sweepBegin caller directory table hidle hshows => exact h.rest caller rfl rfl
  | sweepTurn caller directory own pgid polls left swept table hat hshows =>
      apply h.rest caller <;> unfold afterSweep <;> split <;> rfl
  | sweepEnd caller directory swept hat => exact h.rest caller rfl rfl
  | recoveryBegin caller hidle => exact h.rest caller rfl rfl
  | recoveryTurn caller own polls listed left result table root hroot hat hshows =>
      apply h.rest caller <;> unfold afterRecovery <;> split <;> rfl
  | recoveryEnd caller result hat => exact h.rest caller rfl rfl

theorem Reached.inv (h : Reached world) : Inv world :=
  Transition.Reachable.invariant inv_initial (fun _ _ hinv ⟨_, hstep⟩ => hinv.step hstep) h

/-! ## Whom the signals reach -/

/-- The group that holds a number is one an owned spawn recorded: a ledger or the spawn's
root names the number, and a start time its root names is the one of the group's leader. -/
def RecordedHolder (world : World Caller) (pgid : Int) : Prop :=
  ∃ holder nonce, world.held pgid = some holder ∧ holder.spawn = some nonce ∧
    Written world.roots world.ledgers nonce pgid ∧
      ∀ root ∈ world.roots, root.name = nonce → ∀ record, ownedRootRecord root = .ok record →
        ∀ start, record.leaderStart = some start → start = holder.start.text

/-- The group that holds a number is the one whose root names the number, and its leader
started when the root says. -/
def CorroboratedHolder (world : World Caller) (pgid : Int) : Prop :=
  ∃ holder root record, world.held pgid = some holder ∧ root ∈ world.roots ∧
    holder.spawn = some root.name ∧ ownedRootRecord root = .ok record ∧
      record.pgid = some pgid ∧ record.leaderStart = some holder.start.text

/-- What a signal is sent on. -/
theorem Step.signalled (hstep : Step world signals next) : ∀ signal ∈ signals,
      signal.path = .ledger ∧ (world.held signal.pgid).isSome = true ∨
      signal.path = .root ∧ ∃ root ∈ world.roots, ∃ record table, Shows world table ∧
        ownedRootRecord root = .ok record ∧ Binds root.name record table signal.pgid := by
  intro signal hmem
  cases hstep with
  | reap caller directory own pgid polls table hidle hshows =>
      obtain ⟨number, hnumber, rfl⟩ := List.mem_map.mp hmem
      have hlive := (mem_killed_reapOwned hshows.quiet hnumber).2
      rw [hshows.groups] at hlive
      exact Or.inl ⟨rfl, hlive⟩
  | sweepTurn caller directory own pgid polls left swept table hat hshows =>
      obtain ⟨number, hnumber, rfl⟩ := List.mem_map.mp hmem
      have hlive := (mem_killed_reapOwned hshows.quiet hnumber).2
      rw [hshows.groups] at hlive
      exact Or.inl ⟨rfl, hlive⟩
  | recoveryTurn caller own polls listed left result table root hroot hat hshows =>
      obtain ⟨number, hnumber, rfl⟩ := List.mem_map.mp hmem
      obtain ⟨record, hrecord, hbinds⟩ := mem_killed_examineRoot hshows.quiet hnumber
      exact Or.inr ⟨rfl, root, hroot, record, table, hshows, hrecord, hbinds⟩
  | _ => cases hmem

variable {root : Root} {record : OwnedRecord}

omit [DecidableEq Caller] in
/-- The start time in a root is the one of the group its spawn began. -/
theorem Inv.recorded_start (h : Inv world) (hroot : root ∈ world.roots)
    (hrecord : ownedRootRecord root = .ok record) {start : List Char}
    (hstart : record.leaderStart = some start) :
    ∃ handing ∈ world.handed, handing.spawn = some root.name ∧ start = handing.start.text := by
  unfold ownedRootRecord at hrecord
  simp only [bind_eq_ok, pure_eq_ok] at hrecord
  obtain ⟨nonce, -, read, hread, pgid, -, rfl⟩ := hrecord
  rcases h.filed.start root hroot with habsent | ⟨handing, hmem, hspawn, htext⟩
  · rw [habsent] at hread
    cases hread
    cases hstart
  · rw [htext] at hread
    cases hread
    refine ⟨handing, hmem, hspawn, ?_⟩
    have hsome : nonempty (strip handing.start.text) = some start := hstart
    rw [handing.start.stripped, nonempty, if_neg handing.start.nonempty] at hsome
    exact (Option.some.inj hsome).symm

omit [DecidableEq Caller] in
/-- The number in a root is the one its spawn's group was handed. -/
theorem Inv.recorded_group (h : Inv world) (hroot : root ∈ world.roots)
    (hrecord : ownedRootRecord root = .ok record) {pgid : Int} (hpgid : record.pgid = some pgid) :
    ∃ handing ∈ world.handed, handing.spawn = some root.name ∧ handing.number = pgid := by
  unfold ownedRootRecord at hrecord
  simp only [bind_eq_ok, pure_eq_ok] at hrecord
  obtain ⟨nonce, -, start, -, read, hread, rfl⟩ := hrecord
  rcases h.filed.group root hroot with habsent | ⟨handing, hmem, hspawn, htext⟩
  · rw [habsent] at hread
    cases hread
    cases hpgid
  · rw [htext] at hread
    cases hread
    obtain ⟨hlow, hhigh⟩ := h.handed.range handing hmem
    have hsome : (Numerals.readInteger (strip (Nat.toDigits 10 handing.number.toNat))).bind
        nonzero = some pgid := hpgid
    rw [readInteger_written hlow hhigh, Option.bind_some, nonzero, if_neg (by omega)] at hsome
    exact ⟨handing, hmem, hspawn, Option.some.inj hsome⟩

omit [DecidableEq Caller] in
/-- A record that binds a number, by what a process sees, is the one of its holder. -/
theorem Inv.corroborated (h : Inv world) (hroot : root ∈ world.roots)
    (hrecord : ownedRootRecord root = .ok record) (hshows : Shows world table) {pgid : Int}
    (hbinds : Binds root.name record table pgid) : CorroboratedHolder world pgid := by
  obtain ⟨start, hstart, hlive⟩ := hbinds.leader
  obtain ⟨holder, hheld, rfl⟩ := hshows.leader hlive
  obtain ⟨begun, hbegun, hspawn, htext⟩ := h.recorded_start hroot hrecord hstart
  obtain ⟨numbered, hnumbered, hname, hnumber⟩ := h.recorded_group hroot hrecord hbinds.group
  obtain rfl := h.handed.once begun hbegun numbered hnumbered root.name hspawn hname
  have hsame := h.handed.apart _ (h.handed.held pgid holder hheld) begun hbegun hnumber.symm htext
  exact ⟨holder, root, record, hheld, hroot, hsame.trans hspawn, hrecord, hbinds.group, hstart⟩

omit [DecidableEq Caller] in
/-- The holder of a number is a recorded group exactly when the number was recorded after
it was last handed out. -/
theorem Inv.recordedHolder (h : Inv world) {pgid : Int} (hheld : (world.held pgid).isSome = true) :
    RecordedHolder world pgid ↔ pgid ∉ world.unrecorded := by
  obtain ⟨holder, hholder⟩ := Option.isSome_iff_exists.mp hheld
  constructor
  · rintro ⟨found, nonce, hfound, hspawn, hwritten, -⟩ hmarked
    obtain ⟨hrows, hroots⟩ := h.marked.unnoted pgid found hfound hmarked nonce hspawn
    rcases hwritten with ⟨place, hrow⟩ | ⟨root, hroot, hname, hgroup⟩
    · exact hrows place pgid hrow
    · rw [hroots root hroot hname] at hgroup
      cases hgroup
  · intro hout
    obtain ⟨nonce, hspawn, hwritten⟩ := h.marked.noted pgid holder hholder hout
    refine ⟨holder, nonce, hholder, hspawn, hwritten, ?_⟩
    rintro root hroot rfl record hrecord start hstart
    obtain ⟨begun, hbegun, hname, rfl⟩ := h.recorded_start hroot hrecord hstart
    cases h.handed.once begun hbegun _ (h.handed.held pgid holder hholder) root.name hname hspawn
    rfl

/-- In every world that a run reaches, a recovery signals only a group whose leader
started when the root says that names its number; and a reap or a sweep by the ledger
signals a recorded group exactly when the number was recorded after it was last handed
out. -/
theorem signals_recorded (h : Reached world) (hstep : Step world signals next) : ∀ signal ∈ signals,
      (signal.path = .root → CorroboratedHolder world signal.pgid) ∧ (signal.path = .ledger →
        (RecordedHolder world signal.pgid ↔ signal.pgid ∉ world.unrecorded)) := by
  intro signal hmem
  rcases hstep.signalled signal hmem with
    ⟨hpath, hheld⟩ | ⟨hpath, root, hroot, record, table, hshows, hrecord, hbinds⟩
  · refine ⟨fun hother => ?_, fun _ => h.inv.recordedHolder hheld⟩
    rw [hpath] at hother
    cases hother
  · refine ⟨fun _ => h.inv.corroborated hroot hrecord hshows hbinds, fun hother => ?_⟩
    rw [hpath] at hother
    cases hother

end

/-! ## A run -/

/-- What a process sees when `ps` answers for every leader that is there, and every group
would die at once. -/
def tableOf (world : World Caller) : ProcessTable where
  groups := fun number => (world.held number).map fun _ => .dies 0
  started := fun number => (world.held number).bind fun holder =>
    if holder.leader = .gone then none else some holder.start.text
  killed := []

omit [DecidableEq Caller] in
theorem shows_tableOf (world : World Caller) : Shows world (tableOf world) where
  groups := fun number => Option.isSome_map
  started := by
    intro number printed hprinted
    obtain ⟨holder, hholder, hstart⟩ := Option.bind_eq_some_iff.mp hprinted
    split at hstart
    · cases hstart
    · next hleader =>
        cases hstart
        exact ⟨holder, hholder, hleader, holder.start.stripped⟩
  quiet := rfl

/-- A reap of a number the ledger names reaches the group that holds it. -/
theorem killed_reapOwned {own pgid : Int} {polls : Nat} {owned : List Int}
    {table : ProcessTable} (hlow : 1 < pgid) (hhigh : pgid < 2 ^ 31) (hown : pgid ≠ own)
    (hnamed : pgid ∈ owned) (hlive : table.groups pgid = some (.dies 0)) :
    pgid ∈ (reapOwned own polls owned pgid table).2.killed := by
  have hpassed : ¬ (pgid ≤ 1 ∨ pgid = own ∨ pgid ∉ owned) := by
    rintro (hsmall | hsame | hout)
    · omega
    · exact hown hsame
    · exact hout hnamed
  unfold reapOwned
  rw [if_neg hpassed, if_pos ⟨by omega, hhigh⟩]
  unfold killAndWait
  rw [hlive]
  simp only
  rw [killed_awaitEnd]
  exact List.mem_append_right _ (List.mem_singleton_self _)

theorem mem_ownedGroups {place : String} {ledgers : Ledgers} {pgid : Int} (nonce : List Char)
    (h : (place, LedgerRow.group pgid nonce) ∈ ledgers) : pgid ∈ ownedGroups (some place) ledgers :=
  List.mem_dedup.mpr (List.mem_filterMap.mpr ⟨_, h, if_pos rfl⟩)

/-- A start time of one letter. -/
def startAt (letter : Char) (h : strip [letter] = [letter]) : StartTime where
  text := [letter]
  stripped := h
  nonempty := List.cons_ne_nil _ _

def startA : StartTime := startAt 'A' (by decide +kernel)

def startB : StartTime := startAt 'B' (by decide +kernel)

def ledgeredSpawn : Spawn where
  nonce := "own-1".toList
  directory := some "ledger"

/-- The world after a caller's first spawn, which was handed the number 500 and has
entered it in the ledger. -/
def enteredWorld : World Unit :=
  let begun : World Unit :=
    { (World.initial : World Unit).goOn () (.recordsPending ledgeredSpawn) with
      nonces := [ledgeredSpawn.nonce] }
  let pending := { begun.goOn () (.createsRoot ledgeredSpawn) with
    ledgers := recordPending ledgeredSpawn.nonce ledgeredSpawn.directory begun.ledgers }
  let rooted := { pending.goOn () (.writesNonce ledgeredSpawn) with
    roots := pending.roots ++ [bareRoot ledgeredSpawn.nonce] }
  let named := { rooted.goOn () (.starts ledgeredSpawn) with
    roots := writeNonce ledgeredSpawn.nonce rooted.roots }
  let started := (named.handOut 500 startA (some ledgeredSpawn.nonce)).goOn ()
    (.recordsGroup ledgeredSpawn 500)
  ((started.enter ledgeredSpawn 500).goOn () (.stampsStart ledgeredSpawn 500)).goOn () .idle

theorem reached_enteredWorld : Reached enteredWorld := by
  have hfree : ∀ world : World Unit, world.held = (fun _ => none) → world.handed = [] →
      Free world 500 startA := by
    intro world hheld hhanded
    refine ⟨congrFun hheld 500, by decide, ?_⟩
    rw [hhanded]
    exact fun _ hmem => absurd hmem List.not_mem_nil
  refine Transition.Reachable.tail (Transition.Reachable.tail (Transition.Reachable.tail
    (Transition.Reachable.tail (Transition.Reachable.tail (Transition.Reachable.tail
      (Transition.Reachable.tail .start ⟨[], .begin () ledgeredSpawn rfl List.not_mem_nil⟩)
      ⟨[], .recordPending () ledgeredSpawn ?_⟩)
      ⟨[], .createRoot () ledgeredSpawn ?_⟩)
      ⟨[], .writeNonce () ledgeredSpawn ?_⟩)
      ⟨[], .start () ledgeredSpawn 500 startA ?_ (hfree _ rfl rfl)⟩)
      ⟨[], .recordGroup () ledgeredSpawn 500 ?_⟩)
      ⟨[], .crash ()⟩
  all_goals rfl

theorem named_enteredWorld : 500 ∈ ownedGroups (some "ledger") enteredWorld.ledgers :=
  mem_ownedGroups ledgeredSpawn.nonce (List.mem_append_right _ (List.mem_singleton_self _))

/-- The reap of the number 500 by the ledger. -/
theorem reap_signals (world : World Unit) (hidle : world.activity () = .idle)
    (hnamed : 500 ∈ ownedGroups (some "ledger") world.ledgers)
    (hlive : (tableOf world).groups 500 = some (.dies 0)) :
    ∃ signals, Step world signals world ∧ ⟨.ledger, 500⟩ ∈ signals :=
  ⟨_, .reap () (some "ledger") 7 500 3 (tableOf world) hidle (shows_tableOf world),
    List.mem_map.mpr ⟨500, killed_reapOwned (by decide) (by decide) (by decide) hnamed hlive, rfl⟩⟩

/-- The group that the ledger names still holds its number: it is the recorded one. -/
theorem signals_recorded_entered :
    ∃ signals, ⟨.ledger, 500⟩ ∈ signals ∧ Step enteredWorld signals enteredWorld ∧
      RecordedHolder enteredWorld 500 := by
  obtain ⟨signals, hstep, hmem⟩ := reap_signals enteredWorld rfl named_enteredWorld rfl
  refine ⟨signals, hmem, hstep, ?_⟩
  apply ((signals_recorded reached_enteredWorld hstep _ hmem).2 rfl).mpr
  decide +kernel

/-- The group has ended, and a foreign process was handed its number. -/
def reusedWorld : World Unit := (enteredWorld.turn 500 none).handOut 500 startB none

theorem reached_reusedWorld : Reached reusedWorld := by
  have hended : Reached (enteredWorld.turn 500 none) :=
    reached_enteredWorld.tail ⟨[], .groupEnds 500 fun _ _ hchild => by cases hchild⟩
  refine hended.tail ⟨[], .foreign 500 startB ⟨rfl, by decide, ?_⟩⟩
  intro handing hmem _
  cases List.mem_singleton.mp hmem
  decide +kernel

/-- A reap by the ledger kills the foreign group that took over the number. -/
theorem signals_foreign : ¬ ∀ (world next : World Unit) (signals : List Signal), Reached world →
      Step world signals next → ∀ signal ∈ signals, RecordedHolder world signal.pgid := by
  intro hall
  obtain ⟨signals, hstep, hmem⟩ := reap_signals reusedWorld rfl named_enteredWorld rfl
  obtain ⟨holder, nonce, hheld, hspawn, -⟩ :=
    hall _ _ signals reached_reusedWorld hstep _ hmem
  have hforeign : reusedWorld.held 500 = some ⟨startB, none, .running, .fresh⟩ := rfl
  rw [hforeign] at hheld
  cases hheld
  cases hspawn

end DodgingInfinity.ProcessOwnership
