import DodgingInfinity.ProcessOwnership.Spawns

/-!
# Whom a reap reaches

A recovery kills only a group whose leader started when its root says, which is the
group the spawn of that root began.  A reap by the ledger goes by the number alone:
it reaches a recorded group exactly when the number was recorded after it was last
handed out.
-/

namespace DodgingInfinity.ProcessOwnership

open TargetBroker (strip)
open WorkflowAuthority (whitespace)
open Checked (bind_eq_ok pure_eq_ok)

variable {Caller : Type} [DecidableEq Caller]

/-! ## What a path kills -/

section

variable {own : Int} {polls : Nat} {last : Bool} {table : ProcessTable} {pgid number : Int}

@[simp] theorem ProcessTable.killed_waited : (table.waited pgid).killed = table.killed := rfl

theorem killed_settle : (settle pgid polls table).2.killed = table.killed := by
  induction polls generalizing table with
  | zero => rfl
  | succ polls ih =>
      unfold settle
      simp only
      split
      · rw [ih, ProcessTable.killed_waited]
      · rfl

theorem killed_awaitEnd : (awaitEnd polls last pgid table).2.killed = table.killed := by
  unfold awaitEnd
  simp only
  split
  · exact killed_settle
  · split
    · rw [ProcessTable.killed_waited, killed_settle]
    · exact killed_settle

/-- A kill reaches the group it is asked for, and only one that is there. -/
theorem mem_killed_killAndWait (hquiet : table.killed = [])
    (h : number ∈ (killAndWait polls last pgid table).2.killed) :
    number = pgid ∧ (table.groups pgid).isSome = true := by
  have hkill : (table.kill pgid).killed = [pgid] := by
    unfold ProcessTable.kill
    rw [hquiet]
    rfl
  unfold killAndWait at h
  cases hgroup : table.groups pgid with
  | none =>
      rw [hgroup] at h
      simp only at h
      rw [hquiet] at h
      cases h
  | some fate =>
      rw [hgroup] at h
      refine ⟨?_, rfl⟩
      cases fate with
      | refuses =>
          simp only at h
          rw [hkill] at h
          exact List.mem_singleton.mp h
      | lingers | dies polls =>
          simp only at h
          rw [killed_awaitEnd, hkill] at h
          exact List.mem_singleton.mp h

/-- A reap by the ledger reaches the group it is asked for, if the ledger names it. -/
theorem mem_killed_reapOwned {owned : List Int} (hquiet : table.killed = [])
    (h : number ∈ (reapOwned own polls owned pgid table).2.killed) :
    number ∈ owned ∧ (table.groups number).isSome = true := by
  unfold reapOwned at h
  split at h
  · rw [hquiet] at h
    cases h
  · next hnamed =>
      split at h
      · obtain ⟨rfl, hlive⟩ := mem_killed_killAndWait hquiet h
        exact ⟨not_not.mp fun hout => hnamed (Or.inr (Or.inr hout)), hlive⟩
      · rw [hquiet] at h
        cases h

/-- What a record must say for its group to be ours. -/
structure Binds (name : List Char) (record : OwnedRecord) (table : ProcessTable) (pgid : Int) :
    Prop where
  group : record.pgid = some pgid
  nonce : record.nonce = some name
  leader : ∃ start, record.leaderStart = some start ∧ leaderStartTime table pgid = some start

theorem corroborate_binds {name : List Char} {record : OwnedRecord}
    (h : corroborate name record table = .ours pgid) : Binds name record table pgid := by
  unfold corroborate at h
  cases hgroup : record.pgid with
  | none =>
      rw [hgroup] at h
      cases h
  | some held =>
      rw [hgroup] at h
      simp only at h
      cases hnonce : record.nonce with
      | none =>
          rw [hnonce] at h
          cases h
      | some nonce =>
          rw [hnonce] at h
          simp only at h
          split at h
          · cases h
          · next hname =>
              cases hstart : record.leaderStart with
              | none =>
                  rw [hstart] at h
                  cases h
              | some recorded =>
                  rw [hstart] at h
                  simp only at h
                  cases hlive : leaderStartTime table held with
                  | none =>
                      rw [hlive] at h
                      cases h
                  | some live =>
                      rw [hlive] at h
                      simp only at h
                      split at h
                      · cases h
                      · next hsame =>
                          cases h
                          exact ⟨hgroup, hnonce.trans (congrArg some (not_not.mp hname)),
                            recorded, hstart, hlive.trans (congrArg some (not_not.mp hsame))⟩

/-- A recovery reaches only a group that the root's record binds. -/
theorem mem_killed_examineRoot {root : Root} {listed : Option Int} (hquiet : table.killed = [])
    (h : number ∈ (examineRoot own polls (root, listed) table).2.killed) :
    ∃ record, ownedRootRecord root = .ok record ∧ Binds root.name record table number := by
  have hnone : number ∉ table.killed := by
    rw [hquiet]
    exact List.not_mem_nil
  unfold examineRoot at h
  split at h
  · exact absurd h hnone
  · split at h
    · exact absurd h hnone
    · split at h
      · exact absurd h hnone
      · exact absurd h hnone
      · unfold settleRoot groupIsOurs at h
        cases hrecord : ownedRootRecord root with
        | error raised =>
            rw [hrecord] at h
            exact absurd h hnone
        | ok record =>
            refine ⟨record, rfl, ?_⟩
            rw [hrecord] at h
            simp only [pure, Except.pure, bind, Except.bind] at h
            cases hspoken : corroborate root.name record table with
            | silent =>
                rw [hspoken] at h
                exact absurd h hnone
            | unproven reason =>
                rw [hspoken] at h
                exact absurd h hnone
            | ours held =>
                rw [hspoken] at h
                simp only at h
                unfold reapGroupByRecordedRoot at h
                split at h
                · obtain ⟨rfl, -⟩ := mem_killed_killAndWait hquiet h
                  exact corroborate_binds hspoken
                · exact absurd h hnone

end

/-! ## What is on disk -/

theorem strip_eq_self {text : List Char} (h : ∀ character ∈ text, character ∉ whitespace) :
    strip text = text := by
  have hkeep : ∀ {characters : List Char}, (∀ character ∈ characters, character ∉ whitespace) →
      characters.dropWhile (· ∈ whitespace) = characters := by
    intro characters hall
    cases characters with
    | nil => rfl
    | cons first rest =>
        have hfirst : decide (first ∈ whitespace) = false :=
          decide_eq_false (hall first List.mem_cons_self)
        rw [List.dropWhile_cons, hfirst]
        rfl
  unfold strip
  rw [hkeep h, hkeep fun character hmem => h character (List.mem_reverse.mp hmem),
    List.reverse_reverse]

theorem digit_notMem_whitespace : ∀ character ∈ whitespace, character.isDigit = false := by
  decide

/-- A number in range that was written is read back. -/
theorem readInteger_written {number : Int} (hlow : 1 < number) (hhigh : number < 2 ^ 31) :
    Numerals.readInteger (strip (Nat.toDigits 10 number.toNat)) = some number := by
  have hdigits : ∀ character ∈ Nat.toDigits 10 number.toNat, character ∉ whitespace := by
    intro character hmem hspace
    have hdigit := Nat.isDigit_of_mem_toDigits (by decide) (by decide) hmem
    rw [digit_notMem_whitespace character hspace] at hdigit
    cases hdigit
  have hlength : (Nat.toDigits 10 number.toNat).length ≤ 10 :=
    (Nat.length_toDigits_le_iff (by decide) (by decide)).mpr (by omega)
  rw [strip_eq_self hdigits,
    Numerals.readInteger_toDigits (le_trans hlength (by decide)), Int.toNat_of_nonneg (by omega)]

section

variable {name : List Char} {start : Option (List Char)} {pgid : Int} {roots : List Root}
  {root : Root}

/-- A stamped start changes the start file of the roots of its name. -/
theorem mem_stampStart (h : root ∈ stampStart name start roots) :
    ∃ earlier ∈ roots, root.name = earlier.name ∧ root.pgidFile = earlier.pgidFile ∧
      (root.startFile = earlier.startFile ∨
        earlier.name = name ∧ ∃ text, start = some text ∧ root.startFile = .text text) := by
  obtain ⟨earlier, hmem, rfl⟩ := List.mem_map.mp h
  refine ⟨earlier, hmem, ?_⟩
  cases start with
  | none => exact ⟨rfl, rfl, Or.inl rfl⟩
  | some text =>
      simp only
      split
      · next hname => exact ⟨rfl, rfl, Or.inr ⟨hname, text, rfl, rfl⟩⟩
      · exact ⟨rfl, rfl, Or.inl rfl⟩

/-- A stamped group changes the group file of the roots of its name. -/
theorem mem_stampGroup (h : root ∈ stampGroup name pgid roots) :
    ∃ earlier ∈ roots, root.name = earlier.name ∧ root.startFile = earlier.startFile ∧
      (earlier.name ≠ name ∧ root.pgidFile = earlier.pgidFile ∨
        earlier.name = name ∧ root.pgidFile = .text (Nat.toDigits 10 pgid.toNat)) := by
  obtain ⟨earlier, hmem, rfl⟩ := List.mem_map.mp h
  refine ⟨earlier, hmem, ?_⟩
  split
  · next hname => exact ⟨rfl, rfl, Or.inr ⟨hname, rfl⟩⟩
  · next hname => exact ⟨rfl, rfl, Or.inl ⟨hname, rfl⟩⟩

theorem mem_writeNonce (h : root ∈ writeNonce name roots) :
    ∃ earlier ∈ roots, root.name = earlier.name ∧ root.pgidFile = earlier.pgidFile ∧
      root.startFile = earlier.startFile := by
  obtain ⟨earlier, hmem, rfl⟩ := List.mem_map.mp h
  refine ⟨earlier, hmem, ?_⟩
  split <;> exact ⟨rfl, rfl, rfl⟩

/-- Every root is still there under its name. -/
def NamesKept (roots later : List Root) : Prop :=
  ∀ root ∈ roots, ∃ next ∈ later, next.name = root.name

theorem namesKept_map {change : Root → Root} (h : ∀ root, (change root).name = root.name) :
    NamesKept roots (roots.map change) :=
  fun root hmem => ⟨change root, List.mem_map_of_mem hmem, h root⟩

theorem namesKept_stampStart : NamesKept roots (stampStart name start roots) := by
  apply namesKept_map
  intro root
  cases start with
  | none => rfl
  | some text =>
      simp only
      split <;> rfl

theorem namesKept_stampGroup : NamesKept roots (stampGroup name pgid roots) := by
  apply namesKept_map
  intro root
  split <;> rfl

theorem namesKept_writeNonce : NamesKept roots (writeNonce name roots) := by
  apply namesKept_map
  intro root
  split <;> rfl

end

/-! ## Invariants -/

/-- The groups that hold numbers were handed them, a number and a start time never to
two, and a nonce only once. -/
structure Handed (held : Int → Option Holder) (handed : List Handing) : Prop where
  held : ∀ number holder, held number = some holder → ⟨number, holder.start, holder.spawn⟩ ∈ handed
  apart : ∀ first ∈ handed, ∀ second ∈ handed, first.number = second.number →
    first.start.text = second.start.text → first.spawn = second.spawn
  range : ∀ handing ∈ handed, 1 < handing.number ∧ handing.number < 2 ^ 31
  once : ∀ first ∈ handed, ∀ second ∈ handed, ∀ nonce, first.spawn = some nonce →
    second.spawn = some nonce → first = second

/-- Whether a caller has made the root of its spawn. -/
def Activity.hasRoot : Activity → Bool
  | .recordsPending _ => false
  | .createsRoot _ => false
  | _ => true

/-- The callers' spawns have nonces of their own, which no group was begun under before
they start it, and the process a caller is recording holds its number. -/
structure Callers (activity : Caller → Activity) (nonces : List (List Char))
    (handed : List Handing) (held : Int → Option Holder) : Prop where
  drawn : ∀ caller spawn, (activity caller).spawn? = some spawn → spawn.nonce ∈ nonces
  alone : ∀ caller other spawn rival, (activity caller).spawn? = some spawn →
    (activity other).spawn? = some rival → spawn.nonce = rival.nonce → caller = other
  known : ∀ handing ∈ handed, ∀ nonce, handing.spawn = some nonce → nonce ∈ nonces
  before : ∀ caller spawn, (activity caller).spawn? = some spawn →
    (activity caller).child? = none → ∀ handing ∈ handed, handing.spawn ≠ some spawn.nonce
  child : ∀ caller spawn number, (activity caller).child? = some (spawn, number) →
    ∃ holder, held number = some holder ∧ holder.spawn = some spawn.nonce

/-- The spawns that have come so far have a root. -/
structure Rooted (activity : Caller → Activity) (roots : List Root) (handed : List Handing) :
    Prop where
  spawning : ∀ caller spawn, (activity caller).spawn? = some spawn →
    (activity caller).hasRoot = true → ∃ root ∈ roots, root.name = spawn.nonce
  begun : ∀ handing ∈ handed, ∀ nonce, handing.spawn = some nonce →
    ∃ root ∈ roots, root.name = nonce

/-- What the records on disk say was so. -/
structure Filed (roots : List Root) (ledgers : Ledgers) (handed : List Handing) : Prop where
  start : ∀ root ∈ roots, root.startFile = .absent ∨
    ∃ handing ∈ handed, handing.spawn = some root.name ∧ root.startFile = .text handing.start.text
  group : ∀ root ∈ roots, root.pgidFile = .absent ∨
    ∃ handing ∈ handed, handing.spawn = some root.name ∧
      root.pgidFile = .text (Nat.toDigits 10 handing.number.toNat)
  row : ∀ place number nonce, (place, LedgerRow.group number nonce) ∈ ledgers →
    ∃ handing ∈ handed, handing.number = number ∧ handing.spawn = some nonce

/-- A spawn's record names a number: in a ledger, or in its root. -/
def Written (roots : List Root) (ledgers : Ledgers) (nonce : List Char) (number : Int) : Prop :=
  (∃ place, (place, LedgerRow.group number nonce) ∈ ledgers) ∨ ∃ root ∈ roots, root.name = nonce ∧
      root.pgidFile = .text (Nat.toDigits 10 number.toNat)

/-- No record of a spawn names a number. -/
def Unwritten (roots : List Root) (ledgers : Ledgers) (nonce : List Char) : Prop :=
  (∀ place number, (place, LedgerRow.group number nonce) ∉ ledgers) ∧
    ∀ root ∈ roots, root.name = nonce → root.pgidFile = .absent

/-- A number that is held is marked unrecorded until a record of its holder names it. -/
structure Marked (held : Int → Option Holder) (unrecorded : List Int) (roots : List Root)
    (ledgers : Ledgers) : Prop where
  noted : ∀ number holder, held number = some holder → number ∉ unrecorded →
    ∃ nonce, holder.spawn = some nonce ∧ Written roots ledgers nonce number
  unnoted : ∀ number holder, held number = some holder → number ∈ unrecorded →
    ∀ nonce, holder.spawn = some nonce → Unwritten roots ledgers nonce

structure Inv (world : World Caller) : Prop where
  handed : Handed world.held world.handed
  callers : Callers world.activity world.nonces world.handed world.held
  rooted : Rooted world.activity world.roots world.handed
  filed : Filed world.roots world.ledgers world.handed
  marked : Marked world.held world.unrecorded world.roots world.ledgers

section

variable {held later : Int → Option Holder} {handed : List Handing} {number : Int}
  {start : StartTime} {spawn : Option (List Char)} {activity : Caller → Activity}
  {nonces : List (List Char)} {roots : List Root} {ledgers : Ledgers}
  {unrecorded : List Int}

/-- Whoever holds a number later held it before, as the same group. -/
def Within (held later : Int → Option Holder) : Prop :=
  ∀ number next, later number = some next → ∃ holder, held number = some holder ∧
    holder.start = next.start ∧ holder.spawn = next.spawn

variable {holder : Holder}

variable {next : Holder}

theorem within_update_some (hheld : held number = some holder)
    (hstart : holder.start = next.start) (hspawn : holder.spawn = next.spawn) :
    Within held (Function.update held number (some next)) := by
  intro other found hfound
  by_cases hsame : other = number
  · subst hsame
    rw [Function.update_self] at hfound
    cases hfound
    exact ⟨holder, hheld, hstart, hspawn⟩
  · rw [Function.update_of_ne hsame] at hfound
    exact ⟨found, hfound, rfl, rfl⟩

theorem within_update_none : Within held (Function.update held number none) := by
  intro other found hfound
  by_cases hsame : other = number
  · subst hsame
    rw [Function.update_self] at hfound
    cases hfound
  · rw [Function.update_of_ne hsame] at hfound
    exact ⟨found, hfound, rfl, rfl⟩

/-! ### What is handed out -/

theorem Handed.within (h : Handed held handed) (hwithin : Within held later) :
    Handed later handed where
  held := by
    intro other next hnext
    obtain ⟨holder, hholder, hstart, hspawn⟩ := hwithin other next hnext
    rw [← hstart, ← hspawn]
    exact h.held other holder hholder
  apart := h.apart
  range := h.range
  once := h.once

/-- A free number and a start time of its own are handed to a group, under a nonce that
no other group was begun under. -/
theorem Handed.handOut (h : Handed held handed) (hrange : 1 < number ∧ number < 2 ^ 31)
    (hapart : ∀ handing ∈ handed, handing.number = number → handing.start.text ≠ start.text)
    (hspawn : ∀ nonce, spawn = some nonce → ∀ handing ∈ handed, handing.spawn ≠ some nonce) :
    Handed (Function.update held number (some ⟨start, spawn, .running, .fresh⟩))
      (⟨number, start, spawn⟩ :: handed) where
  held := by
    intro other holder hholder
    by_cases hsame : other = number
    · subst hsame
      rw [Function.update_self] at hholder
      cases hholder
      exact List.mem_cons_self
    · rw [Function.update_of_ne hsame] at hholder
      exact List.mem_cons_of_mem _ (h.held other holder hholder)
  apart := by
    intro first hfirst second hsecond hnumber hstart
    rcases List.mem_cons.mp hfirst with rfl | hfirst <;>
      rcases List.mem_cons.mp hsecond with rfl | hsecond
    · rfl
    · exact absurd hstart.symm (hapart second hsecond hnumber.symm)
    · exact absurd hstart (hapart first hfirst hnumber)
    · exact h.apart first hfirst second hsecond hnumber hstart
  range := by
    intro handing hmem
    rcases List.mem_cons.mp hmem with rfl | hmem
    · exact hrange
    · exact h.range handing hmem
  once := by
    intro first hfirst second hsecond nonce hnonce hother
    rcases List.mem_cons.mp hfirst with rfl | hfirst <;>
      rcases List.mem_cons.mp hsecond with rfl | hsecond
    · rfl
    · exact absurd hother (hspawn nonce hnonce second hsecond)
    · exact absurd hnonce (hspawn nonce hother first hfirst)
    · exact h.once first hfirst second hsecond nonce hnonce hother

variable {nonce : List Char}

/-- Two numbers held under one nonce are one. -/
theorem Handed.number_unique (h : Handed held handed) {other : Int} {rival : Holder}
    (hholder : held number = some holder) (hrival : held other = some rival)
    (hspawn : holder.spawn = some nonce) (hsame : rival.spawn = some nonce) : number = other :=
  congrArg Handing.number
    (h.once _ (h.held number holder hholder) _ (h.held other rival hrival) nonce hspawn hsame)

/-! ### What the callers do -/

variable {now : Activity}

/-- A caller goes on with its spawn, or is done with it. -/
theorem Callers.goOn (h : Callers activity nonces handed held) (caller : Caller)
    (hspawn : ∀ spawn, now.spawn? = some spawn → (activity caller).spawn? = some spawn)
    (hbefore : ∀ spawn, now.spawn? = some spawn → now.child? = none →
      (activity caller).child? = none) (hchild : ∀ spawn number, now.child? = some (spawn, number) →
      ∃ holder, held number = some holder ∧ holder.spawn = some spawn.nonce) :
    Callers (Function.update activity caller now) nonces handed held := by
  have hback : ∀ other spawn, (Function.update activity caller now other).spawn? = some spawn →
      (activity other).spawn? = some spawn := by
    intro other spawn hnow
    by_cases hsame : other = caller
    · subst hsame
      rw [Function.update_self] at hnow
      exact hspawn spawn hnow
    · rw [Function.update_of_ne hsame] at hnow
      exact hnow
  refine ⟨?_, ?_, h.known, ?_, ?_⟩
  · exact fun other spawn hnow => h.drawn other spawn (hback other spawn hnow)
  · intro other third spawn rival hnow hthird hnonce
    exact h.alone other third spawn rival (hback other spawn hnow) (hback third rival hthird) hnonce
  · intro other spawn hnow hnone
    refine h.before other spawn (hback other spawn hnow) ?_
    by_cases hsame : other = caller
    · subst hsame
      rw [Function.update_self] at hnow hnone
      exact hbefore spawn hnow hnone
    · rw [Function.update_of_ne hsame] at hnone
      exact hnone
  · intro other spawn number hnow
    by_cases hsame : other = caller
    · subst hsame
      rw [Function.update_self] at hnow
      exact hchild spawn number hnow
    · rw [Function.update_of_ne hsame] at hnow
      exact h.child other spawn number hnow

/-- A caller that is at no spawn. -/
theorem Callers.rest (h : Callers activity nonces handed held) (caller : Caller)
    (hspawn : now.spawn? = none) (hchild : now.child? = none) :
    Callers (Function.update activity caller now) nonces handed held := by
  apply h.goOn caller
  · intro spawn hsome
    rw [hspawn] at hsome
    cases hsome
  · intro spawn hsome
    rw [hspawn] at hsome
    cases hsome
  · intro spawn number hsome
    rw [hchild] at hsome
    cases hsome

/-- A caller begins a spawn under a fresh nonce. -/
theorem Callers.begin (h : Callers activity nonces handed held) (caller : Caller)
    {begun : Spawn} (hfresh : begun.nonce ∉ nonces) :
    Callers (Function.update activity caller (.recordsPending begun)) (begun.nonce :: nonces)
      handed held where
  drawn := by
    intro other spawn hnow
    by_cases hsame : other = caller
    · subst hsame
      rw [Function.update_self] at hnow
      cases hnow
      exact List.mem_cons_self
    · rw [Function.update_of_ne hsame] at hnow
      exact List.mem_cons_of_mem _ (h.drawn other spawn hnow)
  alone := by
    intro other third spawn rival hnow hthird hnonce
    by_cases hsame : other = caller <;> by_cases hthen : third = caller
    · exact hsame.trans hthen.symm
    · subst hsame
      rw [Function.update_self] at hnow
      rw [Function.update_of_ne hthen] at hthird
      cases hnow
      exact absurd (hnonce ▸ h.drawn third rival hthird) hfresh
    · subst hthen
      rw [Function.update_of_ne hsame] at hnow
      rw [Function.update_self] at hthird
      cases hthird
      exact absurd (hnonce ▸ h.drawn other spawn hnow) hfresh
    · rw [Function.update_of_ne hsame] at hnow
      rw [Function.update_of_ne hthen] at hthird
      exact h.alone other third spawn rival hnow hthird hnonce
  known := fun handing hmem nonce hnonce =>
    List.mem_cons_of_mem _ (h.known handing hmem nonce hnonce)
  before := by
    intro other spawn hnow hnone handing hmem
    by_cases hsame : other = caller
    · subst hsame
      rw [Function.update_self] at hnow
      cases hnow
      exact fun hspawn => hfresh (h.known handing hmem _ hspawn)
    · rw [Function.update_of_ne hsame] at hnow hnone
      exact h.before other spawn hnow hnone handing hmem
  child := by
    intro other spawn number hnow
    by_cases hsame : other = caller
    · subst hsame
      rw [Function.update_self] at hnow
      cases hnow
    · rw [Function.update_of_ne hsame] at hnow
      exact h.child other spawn number hnow

omit [DecidableEq Caller] in
/-- A group is begun that holds a free number; under a nonce only by the caller whose
spawn it is, which from now on records it. -/
theorem Callers.handOut (h : Callers activity nonces handed held) {now : Caller → Activity}
    (hunheld : held number = none)
    (hsame : ∀ caller, (now caller).spawn? = (activity caller).spawn?)
    (hlater : ∀ caller, (now caller).child? = none → (activity caller).child? = none)
    (hchild : ∀ caller mine other, (now caller).child? = some (mine, other) →
      (activity caller).child? = some (mine, other) ∨ other = number ∧ spawn = some mine.nonce)
    (hspawn : ∀ nonce, spawn = some nonce → nonce ∈ nonces ∧
      ∀ caller mine, (now caller).spawn? = some mine → mine.nonce = nonce →
        (now caller).child? ≠ none) : Callers now nonces (⟨number, start, spawn⟩ :: handed)
      (Function.update held number (some ⟨start, spawn, .running, .fresh⟩)) where
  drawn := fun caller mine hmine => h.drawn caller mine (hsame caller ▸ hmine)
  alone := fun caller other mine rival hmine hrival =>
    h.alone caller other mine rival (hsame caller ▸ hmine) (hsame other ▸ hrival)
  known := by
    intro handing hmem nonce hnonce
    rcases List.mem_cons.mp hmem with rfl | hmem
    · exact (hspawn nonce hnonce).1
    · exact h.known handing hmem nonce hnonce
  before := by
    intro caller mine hmine hnone handing hmem
    rcases List.mem_cons.mp hmem with rfl | hmem
    · exact fun hnonce => (hspawn _ hnonce).2 caller mine hmine rfl hnone
    · exact h.before caller mine (hsame caller ▸ hmine) (hlater caller hnone) handing hmem
  child := by
    intro caller mine other hnow
    rcases hchild caller mine other hnow with hold | ⟨rfl, hnonce⟩
    · obtain ⟨holder, hholder, hnonce⟩ := h.child caller mine other hold
      have hne : other ≠ number := by
        rintro rfl
        rw [hunheld] at hholder
        cases hholder
      exact ⟨holder, by rw [Function.update_of_ne hne]; exact hholder, hnonce⟩
    · exact ⟨_, Function.update_self _ _ _, hnonce⟩

omit [DecidableEq Caller] in
/-- Every process that is being recorded keeps its number. -/
theorem Callers.keeps (h : Callers activity nonces handed held)
    (hkept : ∀ caller spawn number, (activity caller).child? = some (spawn, number) →
      ∀ holder, held number = some holder →
        ∃ next, later number = some next ∧ next.spawn = holder.spawn) :
    Callers activity nonces handed later where
  drawn := h.drawn
  alone := h.alone
  known := h.known
  before := h.before
  child := by
    intro caller spawn number hnow
    obtain ⟨holder, hholder, hnonce⟩ := h.child caller spawn number hnow
    obtain ⟨next, hnext, hsame⟩ := hkept caller spawn number hnow holder hholder
    exact ⟨next, hnext, hsame.trans hnonce⟩

omit [DecidableEq Caller] in
theorem Callers.turn_some (h : Callers activity nonces handed held)
    (hheld : held number = some holder) (hspawn : next.spawn = holder.spawn) :
    Callers activity nonces handed (Function.update held number (some next)) := by
  apply h.keeps
  intro caller spawn other _ found hfound
  by_cases hsame : other = number
  · subst hsame
    rw [hheld] at hfound
    cases hfound
    exact ⟨next, Function.update_self _ _ _, hspawn⟩
  · exact ⟨found, by rw [Function.update_of_ne hsame]; exact hfound, rfl⟩

omit [DecidableEq Caller] in
theorem Callers.turn_none (h : Callers activity nonces handed held)
    (hfree : ∀ caller spawn, (activity caller).child? ≠ some (spawn, number)) :
    Callers activity nonces handed (Function.update held number none) := by
  apply h.keeps
  intro caller spawn other hchild found hfound
  have hne : other ≠ number := by
    rintro rfl
    exact hfree caller spawn hchild
  exact ⟨found, by rw [Function.update_of_ne hne]; exact hfound, rfl⟩

/-! ### The roots that are there -/

/-- A caller goes on; if that takes it past the making of its root, the root is there. -/
theorem Rooted.goOn (h : Rooted activity roots handed) (caller : Caller)
    (hnow : ∀ spawn, now.spawn? = some spawn → now.hasRoot = true →
      ∃ root ∈ roots, root.name = spawn.nonce) :
    Rooted (Function.update activity caller now) roots handed where
  spawning := by
    intro other spawn hother hroot
    by_cases hsame : other = caller
    · subst hsame
      rw [Function.update_self] at hother hroot
      exact hnow spawn hother hroot
    · rw [Function.update_of_ne hsame] at hother hroot
      exact h.spawning other spawn hother hroot
  begun := h.begun

variable {next : List Root}

omit [DecidableEq Caller] in
theorem Rooted.kept (h : Rooted activity roots handed)
    (hkept : NamesKept roots next) : Rooted activity next handed where
  spawning := by
    intro caller spawn hspawn hroot
    obtain ⟨root, hmem, hname⟩ := h.spawning caller spawn hspawn hroot
    obtain ⟨found, hfound, hsame⟩ := hkept root hmem
    exact ⟨found, hfound, hsame.trans hname⟩
  begun := by
    intro handing hmem nonce hnonce
    obtain ⟨root, hroot, hname⟩ := h.begun handing hmem nonce hnonce
    obtain ⟨found, hfound, hsame⟩ := hkept root hroot
    exact ⟨found, hfound, hsame.trans hname⟩

omit [DecidableEq Caller] in
theorem Rooted.handOut (h : Rooted activity roots handed)
    (hroot : ∀ nonce, spawn = some nonce → ∃ root ∈ roots, root.name = nonce) :
    Rooted activity roots (⟨number, start, spawn⟩ :: handed) where
  spawning := h.spawning
  begun := by
    intro handing hmem nonce hnonce
    rcases List.mem_cons.mp hmem with rfl | hmem
    · exact hroot nonce hnonce
    · exact h.begun handing hmem nonce hnonce

/-! ### What is on disk -/

theorem Filed.handOut (h : Filed roots ledgers handed) (new : Handing) :
    Filed roots ledgers (new :: handed) where
  start := by
    intro root hmem
    refine (h.start root hmem).imp_right ?_
    rintro ⟨handing, hhanding, hboth⟩
    exact ⟨handing, List.mem_cons_of_mem _ hhanding, hboth⟩
  group := by
    intro root hmem
    refine (h.group root hmem).imp_right ?_
    rintro ⟨handing, hhanding, hboth⟩
    exact ⟨handing, List.mem_cons_of_mem _ hhanding, hboth⟩
  row := by
    intro place pgid nonce hmem
    obtain ⟨handing, hhanding, hboth⟩ := h.row place pgid nonce hmem
    exact ⟨handing, List.mem_cons_of_mem _ hhanding, hboth⟩

theorem Filed.pending (h : Filed roots ledgers handed) (nonce : List Char)
    (directory : Option String) :
    Filed roots (recordPending nonce directory ledgers) handed := by
  cases directory with
  | none => exact h
  | some place =>
      refine ⟨h.start, h.group, ?_⟩
      intro found pgid name hmem
      rcases List.mem_append.mp hmem with hmem | hmem
      · exact h.row found pgid name hmem
      · cases List.mem_singleton.mp hmem

variable {handing : Handing}

theorem Filed.entered (h : Filed roots ledgers handed)
    (hhanding : handing ∈ handed) (hspawn : handing.spawn = some nonce)
    (directory : Option String) :
    Filed roots (recordOwnedGroup handing.number nonce directory ledgers) handed := by
  cases directory with
  | none => exact h
  | some place =>
      refine ⟨h.start, h.group, ?_⟩
      intro found pgid name hmem
      rcases List.mem_append.mp hmem with hmem | hmem
      · exact h.row found pgid name hmem
      · cases List.mem_singleton.mp hmem
        exact ⟨handing, hhanding, rfl, hspawn⟩

/-- Each root was there with the same files, or is bare. -/
theorem Filed.renewed (h : Filed roots ledgers handed)
    (hnext : ∀ root ∈ next, (∃ earlier ∈ roots, root.name = earlier.name ∧
        root.pgidFile = earlier.pgidFile ∧ root.startFile = earlier.startFile) ∨
      root.pgidFile = .absent ∧ root.startFile = .absent) :
    Filed next ledgers handed where
  start := by
    intro root hmem
    rcases hnext root hmem with ⟨earlier, hearlier, hname, -, hstart⟩ | ⟨-, hstart⟩
    · rw [hname, hstart]
      exact h.start earlier hearlier
    · exact Or.inl hstart
  group := by
    intro root hmem
    rcases hnext root hmem with ⟨earlier, hearlier, hname, hgroup, -⟩ | ⟨hgroup, -⟩
    · rw [hname, hgroup]
      exact h.group earlier hearlier
    · exact Or.inl hgroup
  row := h.row

theorem Filed.stampStart (h : Filed roots ledgers handed) {text : Option (List Char)}
    (hhanding : handing ∈ handed)
    (hspawn : handing.spawn = some nonce)
    (htext : ∀ read, text = some read → read = handing.start.text) :
    Filed (ProcessOwnership.stampStart nonce text roots) ledgers handed where
  start := by
    intro root hmem
    obtain ⟨earlier, hearlier, hname, -, hstart⟩ := mem_stampStart hmem
    rw [hname]
    rcases hstart with hstart | ⟨rfl, read, hread, hstart⟩
    · rw [hstart]
      exact h.start earlier hearlier
    · rw [hstart, htext read hread]
      exact Or.inr ⟨handing, hhanding, hspawn, rfl⟩
  group := by
    intro root hmem
    obtain ⟨earlier, hearlier, hname, hgroup, -⟩ := mem_stampStart hmem
    rw [hname, hgroup]
    exact h.group earlier hearlier
  row := h.row

theorem Filed.stampGroup (h : Filed roots ledgers handed) (hhanding : handing ∈ handed)
    (hspawn : handing.spawn = some nonce) :
    Filed (ProcessOwnership.stampGroup nonce handing.number roots) ledgers handed where
  start := by
    intro root hmem
    obtain ⟨earlier, hearlier, hname, hstart, -⟩ := mem_stampGroup hmem
    rw [hname, hstart]
    exact h.start earlier hearlier
  group := by
    intro root hmem
    obtain ⟨earlier, hearlier, hname, -, hgroup⟩ := mem_stampGroup hmem
    rw [hname]
    rcases hgroup with ⟨-, hgroup⟩ | ⟨rfl, hgroup⟩
    · rw [hgroup]
      exact h.group earlier hearlier
    · rw [hgroup]
      exact Or.inr ⟨handing, hhanding, hspawn, rfl⟩
  row := h.row

/-! ### What is marked -/

variable {rows : Ledgers}

/-- Records of other kinds, and the turns of a group, leave the marks as they are. -/
theorem Marked.keeps (h : Marked held unrecorded roots ledgers) (hwithin : Within held later)
    (hwritten : ∀ nonce number, Written roots ledgers nonce number → Written next rows nonce number)
    (hunwritten : ∀ nonce, Unwritten roots ledgers nonce → Unwritten next rows nonce) :
    Marked later unrecorded next rows where
  noted := by
    intro number found hfound hout
    obtain ⟨holder, hholder, -, hspawn⟩ := hwithin number found hfound
    obtain ⟨nonce, hnonce, hrecord⟩ := h.noted number holder hholder hout
    exact ⟨nonce, hspawn.symm.trans hnonce, hwritten nonce number hrecord⟩
  unnoted := by
    intro number found hfound hin nonce hnonce
    obtain ⟨holder, hholder, -, hspawn⟩ := hwithin number found hfound
    exact hunwritten nonce (h.unnoted number holder hholder hin nonce (hspawn.trans hnonce))

theorem Marked.within (h : Marked held unrecorded roots ledgers) (hwithin : Within held later) :
    Marked later unrecorded roots ledgers :=
  h.keeps hwithin (fun _ _ hrecord => hrecord) fun _ hnone => hnone

theorem within_self : Within held held := fun _ next hnext => ⟨next, hnext, rfl, rfl⟩

/-- A number that is handed out is marked, and nothing records it yet. -/
theorem Marked.handOut (h : Marked held unrecorded roots ledgers)
    (hunwritten : ∀ nonce, spawn = some nonce → Unwritten roots ledgers nonce) :
    Marked (Function.update held number (some ⟨start, spawn, .running, .fresh⟩))
      (number :: unrecorded) roots ledgers where
  noted := by
    intro other holder hholder hout
    have hne : other ≠ number := fun hsame => hout (hsame ▸ List.mem_cons_self)
    rw [Function.update_of_ne hne] at hholder
    exact h.noted other holder hholder fun hin => hout (List.mem_cons_of_mem _ hin)
  unnoted := by
    intro other holder hholder hin nonce hnonce
    by_cases hsame : other = number
    · subst hsame
      rw [Function.update_self] at hholder
      cases hholder
      exact hunwritten nonce hnonce
    · rw [Function.update_of_ne hsame] at hholder
      exact h.unnoted other holder hholder ((List.mem_cons.mp hin).resolve_left hsame) nonce hnonce

/-- A record that names a number takes the mark off it, for no other number is held under
the nonce of the record. -/
theorem Marked.note (h : Marked held unrecorded roots ledgers)
    (hheld : held number = some holder) (hspawn : holder.spawn = some nonce)
    (halone : ∀ other rival, held other = some rival → rival.spawn = some nonce → other = number)
    (hwrites : Written next rows nonce number)
    (hwritten : ∀ name other, Written roots ledgers name other → Written next rows name other)
    (hunwritten : ∀ name, name ≠ nonce → Unwritten roots ledgers name → Unwritten next rows name) :
    Marked held (unrecorded.filter (· ≠ number)) next rows where
  noted := by
    intro other found hfound hout
    by_cases hsame : other = number
    · subst hsame
      rw [hheld] at hfound
      cases hfound
      exact ⟨nonce, hspawn, hwrites⟩
    · have hnot : other ∉ unrecorded := by
        intro hin
        exact hout (List.mem_filter.mpr ⟨hin, decide_eq_true hsame⟩)
      obtain ⟨name, hname, hrecord⟩ := h.noted other found hfound hnot
      exact ⟨name, hname, hwritten name other hrecord⟩
  unnoted := by
    intro other found hfound hin name hname
    obtain ⟨hmem, hne⟩ := List.mem_filter.mp hin
    have hother : name ≠ nonce := by
      rintro rfl
      exact of_decide_eq_true hne (halone other found hfound hname)
    exact hunwritten name hother (h.unnoted other found hfound hmem name hname)

end

end DodgingInfinity.ProcessOwnership
