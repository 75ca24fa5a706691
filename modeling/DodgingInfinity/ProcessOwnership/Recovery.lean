import DodgingInfinity.ProcessOwnership.Roots
import Mathlib.Data.List.Forall2

/-!
# What recovery accounts for

A recovery owes a report to every root without a usable group id and to every
root whose group has a live member.  It pays all of them exactly when no file
stops it, no number is out of range, and no record that would corroborate a
live group meets a leader whose start time cannot be read any more.
-/

namespace DodgingInfinity.ProcessOwnership

open Checked (bind_eq_ok pure_eq_ok)

/-! ## What is owed -/

/-- The group id of a root, if it is one a process group can have. -/
def usableGroup (root : Root) : Option Int :=
  (stampedGroup root).filter fun pgid => 1 < pgid ∧ pgid < 2 ^ 31

/-- A root for which recovery owes a report: no group can be read from it, or the
group has a live member and is not the caller's own. -/
def Obliged (own : Int) (root : Root) (table : ProcessTable) : Prop :=
  usableGroup root = none ∨
    ∃ pgid, usableGroup root = some pgid ∧ pgid ≠ own ∧ table.groups pgid ≠ none

/-- The one report a root has is the one it is owed. -/
structure Due (own : Int) (root : Root) (table : ProcessTable) (report : Option Report) :
    Prop where
  unstamped : usableGroup root = none → report = some (.unstamped root.name)
  live : ∀ pgid, usableGroup root = some pgid → pgid ≠ own → table.groups pgid ≠ none →
    report = some (.recovered pgid) ∨ report = some (.stuck pgid) ∨
      ∃ reason, report = some (.uncorroborated root.name pgid reason)

/-- The roots, each with the process table as recovery finds it when it comes to
the root. -/
def examinations (own : Int) (polls : Nat) :
    List (Root × Option Int) → ProcessTable → List (Root × ProcessTable)
  | [], _ => []
  | entry :: rest, table =>
      (entry.1, table) :: examinations own polls rest (examineRoot own polls entry table).2

/-- The four lists hold at most one report for each root, and the one it is owed. -/
def Accounts (own : Int) (examined : List (Root × ProcessTable)) (result : Recovery) : Prop :=
  ∃ reports : List (Option Report),
    List.Forall₂ (fun entry report => Due own entry.1 entry.2 report) examined reports ∧
      reports.foldl Recovery.add .empty = result

/-- What lets recovery account for a root: no group id can be read; or the group id
is in range and the group is the caller's, or has no live member, or the files can be
read, and the leader's start time can be too if the record binds the group. -/
def Recoverable (own : Int) (root : Root) (table : ProcessTable) : Prop :=
  stampedGroup root = none ∨ ∃ pgid, usableGroup root = some pgid ∧
      (pgid = own ∨ table.groups pgid = none ∨ ∃ record, ownedRootRecord root = .ok record ∧
          (record.nonce = some root.name → record.leaderStart ≠ none →
            leaderStartTime table pgid ≠ none))

variable {root : Root}

theorem usableGroup_eq_some {pgid : Int} :
    usableGroup root = some pgid ↔ stampedGroup root = some pgid ∧ 1 < pgid ∧ pgid < 2 ^ 31 := by
  unfold usableGroup
  rw [Option.filter_eq_some_iff, decide_eq_true_eq]

theorem usableGroup_of_none (h : stampedGroup root = none) :
    usableGroup root = none := by
  unfold usableGroup
  rw [h]
  rfl

variable {own : Int} {table : ProcessTable}

theorem Due.isSome {report : Option Report}
    (h : Due own root table report) (howed : Obliged own root table) : report.isSome = true := by
  rcases howed with hnone | ⟨pgid, husable, hown, hlive⟩
  · rw [h.unstamped hnone]
    rfl
  · rcases h.live pgid husable hown hlive with hreport | hreport | ⟨reason, hreport⟩ <;>
      rw [hreport] <;> rfl

section

variable {own : Int} {polls : Nat} {root : Root} {table : ProcessTable}

variable {record : OwnedRecord}

/-- A record that can be read has the number of its group file, unless it is zero. -/
theorem record_pgid (h : ownedRootRecord root = .ok record) :
    record.pgid = (stampedGroup root).bind nonzero := by
  unfold ownedRootRecord at h
  simp only [bind_eq_ok, pure_eq_ok] at h
  obtain ⟨nonce, -, start, -, text, htext, rfl⟩ := h
  unfold stampedGroup
  cases hfile : root.pgidFile with
  | absent =>
      rw [hfile] at htext
      cases htext
      rfl
  | unreadable =>
      rw [hfile] at htext
      cases htext
      rfl
  | undecodable =>
      rw [hfile] at htext
      cases htext
  | text content =>
      rw [hfile] at htext
      cases htext
      rfl

variable {pgid : Int}

theorem record_pgid_eq_some
    (h : ownedRootRecord root = .ok record) (hstamped : stampedGroup root = some pgid)
    (hpos : 1 < pgid) : record.pgid = some pgid := by
  have hnonzero : pgid ≠ 0 := by omega
  rw [record_pgid h, hstamped, Option.bind_some, nonzero, if_neg hnonzero]

/-- A number in range is asked about without a complaint. -/
theorem groupAlive_of_range (hlow : 1 < pgid) (hhigh : pgid < 2 ^ 31) :
    groupAlive table pgid = .ok (table.groups pgid).isSome := by
  unfold groupAlive
  exact if_pos ⟨by omega, hhigh⟩

/-- What recovery does with a usable group that is alive and not the caller's. -/
theorem examineRoot_live (husable : usableGroup root = some pgid)
    (hown : pgid ≠ own) (hlive : table.groups pgid ≠ none) :
    examineRoot own polls (root, stampedGroup root) table =
      settleRoot polls root pgid table := by
  obtain ⟨hstamped, hlow, hhigh⟩ := usableGroup_eq_some.mp husable
  have hskip : ¬ (pgid ≤ 1 ∨ pgid = own) := by
    rintro (hsmall | hsame)
    · omega
    · exact hown hsame
  unfold examineRoot
  rw [hstamped]
  simp only
  rw [if_neg hskip, groupAlive_of_range hlow hhigh, Option.isSome_iff_ne_none.mpr hlive]

/-- A usable group that is the caller's or that is gone is passed over. -/
theorem examineRoot_passed (husable : usableGroup root = some pgid)
    (h : pgid = own ∨ table.groups pgid = none) :
    (examineRoot own polls (root, stampedGroup root) table).1 = .ok none := by
  obtain ⟨hstamped, hlow, hhigh⟩ := usableGroup_eq_some.mp husable
  unfold examineRoot
  rw [hstamped]
  simp only
  by_cases hown : pgid = own
  · rw [if_pos (Or.inr hown)]
  · have hskip : ¬ (pgid ≤ 1 ∨ pgid = own) := by
      rintro (hsmall | hsame)
      · omega
      · exact hown hsame
    rw [if_neg hskip, groupAlive_of_range hlow hhigh, h.resolve_left hown]
    rfl

variable {report : Option Report}

/-- A number that is none of a group is passed over, or ends the recovery. -/
theorem examineRoot_unusable (hstamped : stampedGroup root = some pgid)
    (hunusable : usableGroup root = none)
    (h : (examineRoot own polls (root, stampedGroup root) table).1 = .ok report) :
    report = none := by
  have hrange : ¬ (1 < pgid ∧ pgid < 2 ^ 31) := by
    intro hboth
    rw [usableGroup_eq_some.mpr ⟨hstamped, hboth⟩] at hunusable
    cases hunusable
  unfold examineRoot at h
  rw [hstamped] at h
  simp only at h
  split at h
  · exact (Except.ok.inj h).symm
  · next hskip =>
      have hargument : ¬ isGroupArgument pgid := by
        rintro ⟨-, hhigh⟩
        exact hrange ⟨by omega, hhigh⟩
      rw [groupAlive, if_neg hargument] at h
      cases h

/-- The number of the group that is reported is the one of its file. -/
theorem corroborate_ours {held : Int} (hpgid : record.pgid = some pgid)
    (h : corroborate root.name record table = .ours held) : held = pgid := by
  unfold corroborate at h
  rw [hpgid] at h
  simp only at h
  split at h
  · cases h
  · split at h
    · cases h
    · split at h
      · cases h
      · split at h
        · cases h
        · split at h
          · cases h
          · cases h
            rfl

/-- Nothing is said of a group exactly when the record binds it and its leader's
start time cannot be read. -/
theorem corroborate_silent
    (hpgid : record.pgid = some pgid) : corroborate root.name record table = .silent ↔
      record.nonce = some root.name ∧ record.leaderStart ≠ none ∧
        leaderStartTime table pgid = none := by
  unfold corroborate
  rw [hpgid]
  simp only
  cases hnonce : record.nonce with
  | none => simp
  | some nonce =>
      by_cases hname : nonce = root.name
      · cases hstart : record.leaderStart with
        | none => simp [hname]
        | some recorded =>
            cases hlive : leaderStartTime table pgid with
            | none => simp [hname]
            | some live =>
                by_cases hsame : live = recorded <;> simp [hname, hsame]
      · simp [hname]

theorem reapGroup_isOk (polls : Nat) (table : ProcessTable) (hlow : 1 < pgid)
    (hhigh : pgid < 2 ^ 31) :
    ∃ verdict, (reapGroupByRecordedRoot polls pgid table).1 = .ok verdict := by
  refine ⟨(killAndWait polls false pgid table).1, ?_⟩
  unfold reapGroupByRecordedRoot
  rw [if_pos ⟨by omega, hhigh⟩]

/-- A live group that is corroborated, or left alone for a reason, is reported. -/
theorem settleRoot_due (polls : Nat) (husable : usableGroup root = some pgid)
    (hrecord : ownedRootRecord root = .ok record)
    (hspoken : corroborate root.name record table ≠ .silent) :
    ∃ report, (settleRoot polls root pgid table).1 = .ok (some report) ∧
      (report = .recovered pgid ∨ report = .stuck pgid ∨
        ∃ reason, report = .uncorroborated root.name pgid reason) := by
  obtain ⟨hstamped, hlow, hhigh⟩ := usableGroup_eq_some.mp husable
  have hpgid := record_pgid_eq_some hrecord hstamped hlow
  have hours : groupIsOurs root table = .ok (corroborate root.name record table) := by
    unfold groupIsOurs
    rw [hrecord]
    rfl
  unfold settleRoot
  rw [hours]
  cases hcase : corroborate root.name record table with
  | silent => exact absurd hcase hspoken
  | unproven reason => exact ⟨_, rfl, Or.inr (Or.inr ⟨reason, rfl⟩)⟩
  | ours held =>
      obtain rfl := corroborate_ours hpgid hcase
      obtain ⟨verdict, hverdict⟩ := reapGroup_isOk polls table hlow hhigh
      refine ⟨reportOf held verdict, ?_, ?_⟩
      · simp only [hverdict]
        rfl
      · unfold reportOf
        split
        · exact Or.inr (Or.inl rfl)
        · exact Or.inl rfl

/-- A root recovery can account for gets the report it is owed. -/
theorem examineRoot_due (polls : Nat) (h : Recoverable own root table) :
    ∃ report, (examineRoot own polls (root, stampedGroup root) table).1 = .ok report ∧
      Due own root table report := by
  rcases h with hnone | ⟨pgid, husable, h⟩
  · have hunusable := usableGroup_of_none hnone
    refine ⟨some (Report.unstamped root.name), ?_, fun _ => rfl, ?_⟩
    · unfold examineRoot
      rw [hnone]
    · intro pgid husable
      rw [hunusable] at husable
      cases husable
  · have hstamp : ∀ report, usableGroup root = none →
        report = some (Report.unstamped root.name) := by
      intro report hunusable
      rw [husable] at hunusable
      cases hunusable
    by_cases hpassed : pgid = own ∨ table.groups pgid = none
    · refine ⟨none, examineRoot_passed husable hpassed, hstamp none, ?_⟩
      intro other hother hown hlive
      rw [husable] at hother
      cases hother
      exact absurd hpassed (not_or.mpr ⟨hown, hlive⟩)
    · obtain ⟨hown, hlive⟩ := not_or.mp hpassed
      obtain ⟨record, hrecord, hleader⟩ := (h.resolve_left hown).resolve_left hlive
      obtain ⟨hstamped, hlow, -⟩ := usableGroup_eq_some.mp husable
      have hspoken : corroborate root.name record table ≠ .silent := by
        intro hsilent
        obtain ⟨hnonce, hstart, hgone⟩ :=
          (corroborate_silent (record_pgid_eq_some hrecord hstamped hlow)).mp hsilent
        exact hleader hnonce hstart hgone
      obtain ⟨report, hreport, hwhich⟩ := settleRoot_due polls husable hrecord hspoken
      refine ⟨some report, ?_, hstamp _, ?_⟩
      · rw [examineRoot_live husable hown hlive]
        exact hreport
      · intro other hother _ _
        rw [husable] at hother
        cases hother
        rcases hwhich with rfl | rfl | ⟨reason, rfl⟩
        · exact Or.inl rfl
        · exact Or.inr (Or.inl rfl)
        · exact Or.inr (Or.inr ⟨reason, rfl⟩)

/-- A root that is examined without a complaint, and gets a report if it is owed one,
is one recovery can account for. -/
theorem recoverable_of_examined
    (h : (examineRoot own polls (root, stampedGroup root) table).1 = .ok report)
    (howed : Obliged own root table → report.isSome = true) : Recoverable own root table := by
  cases hstamped : stampedGroup root with
  | none => exact Or.inl hstamped
  | some pgid =>
      cases husable : usableGroup root with
      | none =>
          have hnone := examineRoot_unusable hstamped husable h
          rw [hnone] at howed
          exact absurd (howed (Or.inl husable)) (by decide)
      | some other =>
          obtain ⟨hsame, hlow, hhigh⟩ := usableGroup_eq_some.mp husable
          refine Or.inr ⟨other, husable, ?_⟩
          by_cases hown : other = own
          · exact Or.inl hown
          by_cases hlive : table.groups other = none
          · exact Or.inr (Or.inl hlive)
          · refine Or.inr (Or.inr ?_)
            rw [examineRoot_live husable hown hlive] at h
            unfold settleRoot groupIsOurs at h
            cases hrecord : ownedRootRecord root with
            | error raised =>
                rw [hrecord] at h
                cases h
            | ok record =>
                refine ⟨record, rfl, fun hnonce hstart hgone => ?_⟩
                have hsilent := (corroborate_silent
                  (record_pgid_eq_some hrecord hsame hlow)).mpr ⟨hnonce, hstart, hgone⟩
                rw [hrecord] at h
                simp only [pure, Except.pure, bind, Except.bind, hsilent] at h
                cases h
                exact absurd (howed (Or.inr ⟨other, husable, hown, hlive⟩)) (by decide)

/-- A report is made only where one is owed. -/
theorem obliged_of_report {report : Report}
    (h : (examineRoot own polls (root, stampedGroup root) table).1 = .ok (some report)) :
    Obliged own root table := by
  cases hstamped : stampedGroup root with
  | none => exact Or.inl (usableGroup_of_none hstamped)
  | some pgid =>
      cases husable : usableGroup root with
      | none => exact Or.inl husable
      | some other =>
          refine Or.inr ⟨other, husable, ?_⟩
          by_contra hpassed
          have hwhich : other = own ∨ table.groups other = none := by
            by_contra hneither
            exact hpassed (not_or.mp hneither)
          rw [examineRoot_passed husable hwhich] at h
          cases h

end

/-! ## The loop -/

/-- How many reports a result holds. -/
def Recovery.size (result : Recovery) : Nat :=
  result.recovered.length + result.stuck.length + result.unstamped.length +
    result.uncorroborated.length

theorem Recovery.size_add (result : Recovery) (report : Option Report) :
    (result.add report).size = result.size + if report.isSome then 1 else 0 := by
  cases report with
  | none => rfl
  | some report =>
      cases report with
      | recovered pgid | stuck pgid | unstamped name | uncorroborated name pgid reason =>
          simp only [Recovery.add, Recovery.size, List.length_append, List.length_singleton,
            Option.isSome_some, if_true]
          omega

theorem Recovery.size_foldl (reports : List (Option Report)) (result : Recovery) :
    (reports.foldl Recovery.add result).size = result.size + reports.countP Option.isSome := by
  induction reports generalizing result with
  | nil => rfl
  | cons report rest ih =>
      rw [List.foldl_cons, ih, Recovery.size_add, List.countP_cons]
      omega

/-- Reports that are as many, and there wherever the others are, are nowhere else. -/
theorem isSome_of_countP {α : Type} {items : List α} {given owed : List (Option Report)}
    {got due : α → Option Report → Prop} (hgiven : List.Forall₂ got items given)
    (howed : List.Forall₂ due items owed)
    (himp : ∀ item report other, got item report → due item other → report.isSome = true →
      other.isSome = true) : given.countP Option.isSome ≤ owed.countP Option.isSome ∧
      (given.countP Option.isSome = owed.countP Option.isSome →
        ∀ item ∈ items, ∃ report other, got item report ∧ due item other ∧
          (other.isSome = true → report.isSome = true)) := by
  induction hgiven generalizing owed with
  | nil =>
      cases howed
      exact ⟨le_refl _, fun _ item hmem => absurd hmem List.not_mem_nil⟩
  | @cons item report items given hgot _ ih =>
      cases howed with
      | @cons _ other _ owed hdue hrest =>
          obtain ⟨hle, heq⟩ := ih hrest
          have hhead := himp item report other hgot hdue
          rw [List.countP_cons, List.countP_cons]
          cases hreport : report.isSome with
          | true =>
              rw [hhead hreport]
              refine ⟨by omega, fun hcount entry hmem => ?_⟩
              rcases List.mem_cons.mp hmem with rfl | hmem
              · exact ⟨report, other, hgot, hdue, fun _ => hreport⟩
              · exact heq (by omega) entry hmem
          | false =>
              simp only [Bool.false_eq_true, if_false, Nat.add_zero]
              refine ⟨by omega, fun hcount entry hmem => ?_⟩
              have hother : other.isSome = false := by
                by_contra htrue
                rw [Bool.not_eq_false] at htrue
                rw [htrue, if_pos rfl] at hcount
                omega
              rcases List.mem_cons.mp hmem with rfl | hmem
              · refine ⟨report, other, hgot, hdue, fun hsome => ?_⟩
                rw [hother] at hsome
                cases hsome
              · rw [hother, if_neg Bool.false_ne_true, Nat.add_zero] at hcount
                exact heq hcount entry hmem

/-- The entries that recovery goes over: each root with what its file says. -/
def Stamped (entries : List (Root × Option Int)) : Prop :=
  ∀ entry ∈ entries, entry.2 = stampedGroup entry.1

variable {entries : List (Root × Option Int)}

/-- Where every root is one to account for, the loop ends with what is owed. -/
theorem recoverRoots_due (own : Int) (polls : Nat)
    (hstamped : Stamped entries) (table : ProcessTable) (result : Recovery)
    (h : ∀ entry ∈ examinations own polls entries table, Recoverable own entry.1 entry.2) :
    ∃ reports, (recoverRoots own polls entries result table).1 =
        .ok (reports.foldl Recovery.add result) ∧
      List.Forall₂ (fun entry report => Due own entry.1 entry.2 report)
        (examinations own polls entries table) reports := by
  induction entries generalizing table result with
  | nil => exact ⟨[], rfl, List.Forall₂.nil⟩
  | cons entry rest ih =>
      have hentry : entry = (entry.1, stampedGroup entry.1) :=
        Prod.ext rfl (hstamped entry List.mem_cons_self)
      obtain ⟨report, hreport, hdue⟩ :=
        examineRoot_due polls (h (entry.1, table) List.mem_cons_self)
      rw [← hentry] at hreport
      obtain ⟨reports, hrest, hall⟩ :=
        ih (fun other hmem => hstamped other (List.mem_cons_of_mem _ hmem))
          (examineRoot own polls entry table).2 (result.add report)
          (fun other hmem => h other (List.mem_cons_of_mem _ hmem))
      refine ⟨report :: reports, ?_, List.Forall₂.cons hdue hall⟩
      unfold recoverRoots
      simp only [hreport]
      exact hrest

variable {result : Recovery}

/-- A result is put together from what the examination of each root gave. -/
theorem recoverRoots_reports (own : Int) (polls : Nat)
    (hstamped : Stamped entries) {final : Recovery}
    (h : (recoverRoots own polls entries result table).1 = .ok final) :
    ∃ reports, final = reports.foldl Recovery.add result ∧ List.Forall₂ (fun entry report =>
          (examineRoot own polls (entry.1, stampedGroup entry.1) entry.2).1 = .ok report)
        (examinations own polls entries table) reports := by
  induction entries generalizing table result with
  | nil => exact ⟨[], (Except.ok.inj h).symm, List.Forall₂.nil⟩
  | cons entry rest ih =>
      have hentry : entry = (entry.1, stampedGroup entry.1) :=
        Prod.ext rfl (hstamped entry List.mem_cons_self)
      unfold recoverRoots at h
      simp only at h
      cases hreport : (examineRoot own polls entry table).1 with
      | error raised =>
          rw [hreport] at h
          cases h
      | ok report =>
          rw [hreport] at h
          obtain ⟨reports, hfinal, hall⟩ :=
            ih (fun other hmem => hstamped other (List.mem_cons_of_mem _ hmem)) h
          rw [hentry] at hreport
          exact ⟨report :: reports, hfinal, List.Forall₂.cons hreport hall⟩

theorem stamped_ownedRoots (disk : List Entry) : Stamped (ownedRoots disk) := by
  intro entry hmem
  obtain ⟨root, -, rfl⟩ := List.mem_map.mp hmem
  rfl

/-- A recovery that accounts for the roots found each of them one to account for. -/
theorem recoverable_of_accounts {polls : Nat} {disk : List Entry}
    (h : (recoverOrphans own polls disk table).1 = .ok result)
    (haccounts : Accounts own (examinations own polls (ownedRoots disk) table) result) :
    ∀ entry ∈ examinations own polls (ownedRoots disk) table,
      Recoverable own entry.1 entry.2 := by
  obtain ⟨given, hfinal, hgiven⟩ := recoverRoots_reports own polls (stamped_ownedRoots disk) h
  obtain ⟨owed, hdue, hsame⟩ := haccounts
  have hsizes := congrArg Recovery.size (hsame.trans hfinal)
  rw [Recovery.size_foldl, Recovery.size_foldl] at hsizes
  have hcounts := (isSome_of_countP hgiven hdue (fun entry report other hgot howed hsome => by
    obtain ⟨said, rfl⟩ := Option.isSome_iff_exists.mp hsome
    exact howed.isSome (obliged_of_report hgot))).2 (by omega)
  intro entry hmem
  obtain ⟨report, other, hgot, howed, hback⟩ := hcounts entry hmem
  exact recoverable_of_examined hgot fun hobliged => hback (howed.isSome hobliged)

/-- Recovery returns, and accounts for every owned root on disk, exactly when each is
one it can account for at the time it comes to it. -/
theorem recovery_accounts (own : Int) (polls : Nat) (disk : List Entry) (table : ProcessTable) :
    (∃ result, (recoverOrphans own polls disk table).1 = .ok result ∧
        Accounts own (examinations own polls (ownedRoots disk) table) result) ↔
      ∀ entry ∈ examinations own polls (ownedRoots disk) table,
        Recoverable own entry.1 entry.2 := by
  constructor
  · rintro ⟨result, hresult, haccounts⟩
    exact recoverable_of_accounts hresult haccounts
  · intro h
    obtain ⟨reports, hreports, hall⟩ :=
      recoverRoots_due own polls (stamped_ownedRoots disk) table .empty h
    exact ⟨_, hreports, reports, hall, rfl⟩

/-- A root whose leader has exited while a descendant lives. -/
def leaderlessRoot : Root where
  name := "own-1".toList
  nonceFile := .text "own-1".toList
  startFile := .text "Mon".toList
  pgidFile := .text "500".toList

/-- The group of that root has a live member; `ps` knows no process of its number. -/
def leaderlessTable : ProcessTable where
  groups := fun pgid => if pgid = 500 then some (.dies 0) else none
  started := fun _ => none
  killed := []

/-- A live descendant of an owned spawn is dropped by the recovery. -/
theorem recovery_drops_leaderless :
    ¬ ∀ own polls disk table, ∃ result, (recoverOrphans own polls disk table).1 = .ok result ∧
      Accounts own (examinations own polls (ownedRoots disk) table) result := by
  intro hall
  obtain ⟨result, hresult, haccounts⟩ :=
    hall 7 3 [.directory leaderlessRoot] leaderlessTable
  have hroot := recoverable_of_accounts hresult haccounts (leaderlessRoot, leaderlessTable)
    List.mem_cons_self
  have husable : usableGroup leaderlessRoot = some 500 := by decide +kernel
  rcases hroot with hnone | ⟨pgid, hpgid, hown | hgone | ⟨record, hrecord, hleader⟩⟩
  · rw [usableGroup_of_none hnone] at husable
    cases husable
  · rw [husable] at hpgid
    cases hpgid
    cases hown
  · rw [husable] at hpgid
    cases hpgid
    cases hgone
  · have hread : ownedRootRecord leaderlessRoot =
        .ok ⟨some "own-1".toList, some 500, some "Mon".toList⟩ := by decide +kernel
    rw [hread] at hrecord
    cases hrecord
    apply hleader rfl (Option.some_ne_none _)
    rw [husable] at hpgid
    cases hpgid
    rfl

end DodgingInfinity.ProcessOwnership
