import DodgingInfinity.TargetRuntime.TrustWrites

/-!
# When a trust write changes one entry only

Establishing and revoking trust keep everything else of the configuration exactly if the
paths resolve, the configuration is not nested too deeply, and what is to be written can
be encoded and has no number that a double does not hold.
-/

namespace DodgingInfinity.WorkspaceTrust

open Checked (bind_eq_ok pure_eq_ok failIf_eq_ok)
open Dict (lookupEntries setEntries)
open JsonText (Doc Numeral Quantity Binary64 mapEntries isPlain)
open Values (Text ofString)

/-! ## What is promised -/

/-- The entry of the workflow's own lease path. -/
def IsKey (host : Host) (workflow : Workflow) (workspacesRoot key : Text) : Prop :=
  ∃ path resolved, host.realpath (leasePath workspacesRoot workflow.workflowId) = some path ∧
    host.realpath path = some resolved ∧ key = host.normalize resolved

/-- A run without an exception. -/
def Returns {α : Type} (run : Except Stop α) : Prop :=
  ∀ exception, run ≠ .error (.raised exception)

/-- An operation that returns, keeps the file if it refuses, and else makes the intended
edit, which a second call leaves as it is. -/
structure Careful (host : Host) (workflow : Workflow) (workspacesRoot : Text)
    (operation : ConfigFile → Left)
    (intended : Text → List (Text × Doc Quantity) → List (Text × Doc Quantity))
    (file : ConfigFile) : Prop where
  returns : Returns (operation file).result
  refused : ∀ problem, (operation file).result = .error (.refused problem) →
    (operation file).file = file
  done : (operation file).result = .ok () → ∃ key before,
    IsKey host workflow workspacesRoot key ∧ parsed host file = some before ∧
      parsed host (operation file).file = some (intended key before)
  again : (operation file).result = .ok () →
    operation (operation file).file = ⟨.ok (), (operation file).file⟩

/-- Both operations change one entry, and one undoes the other. -/
structure ChangesOneEntry (host : Host) (workflow : Workflow) (workspacesRoot : Text)
    (file : ConfigFile) : Prop where
  establishes : Careful host workflow workspacesRoot (establish host workflow workspacesRoot)
    withFlag file
  revokes : Careful host workflow workspacesRoot (revoke host workflow workspacesRoot)
    withoutEntry file
  restores : ∀ key before projects, IsKey host workflow workspacesRoot key →
    parsed host file = some before → projectsOf before = .ok projects →
    lookupEntries key projects = none →
    (establish host workflow workspacesRoot file).result = .ok () →
    (revoke host workflow workspacesRoot
        (establish host workflow workspacesRoot file).file).result = .ok () ∧
      parsed host (revoke host workflow workspacesRoot
        (establish host workflow workspacesRoot file).file).file = some before

/-! ## The condition -/

/-- The paths that a call resolves can be resolved. -/
structure Resolves (host : Host) (workflow : Workflow) (workspacesRoot : Text)
    (requireDirectory : Bool) : Prop where
  paths : ∀ recorded, recordedPath workflow.workspaceLease = some recorded →
    ∀ path ∈ [workspacesRoot, leasePath workspacesRoot workflow.workflowId, recorded],
      host.realpath path ≠ none
  target : ∀ path, resolveManagedTarget host workflow workspacesRoot requireDirectory = .ok path →
    host.realpath path ≠ none

/-- The flag is missing from an entry that can hold it. -/
def AsksForFlag (key : Text) (entries : List (Text × Doc Numeral)) : Prop :=
  ∃ projects, projectsOf entries = .ok projects ∧
    (lookupEntries key projects = none ∨ lookupEntries key projects = some .null ∨
      ∃ entry, lookupEntries key projects = some (.dict entry) ∧ isFlagged entry = false)

/-- There is an entry to remove. -/
def AsksForRemoval (key : Text) (entries : List (Text × Doc Numeral)) : Prop :=
  ∃ projects value, projectsOf entries = .ok projects ∧ lookupEntries key projects = some value

/-- The configuration is read, and what is to be written can be written without loss. -/
structure EditSafe (host : Host) (asks : List (Text × Doc Numeral) → Prop)
    (intended : List (Text × Doc Numeral) → List (Text × Doc Numeral)) (file : ConfigFile) :
    Prop where
  read : Returns (readEntries host file)
  written : ∀ entries, readEntries host file = .ok entries → asks entries →
    host.statFails = false → CanBeWritten host (intended entries) ∧
      (host.writeFails = false → KeepsNumbers (intended entries))

structure Safe (host : Host) (workflow : Workflow) (workspacesRoot : Text)
    (requireDirectory : Bool) (asks : Text → List (Text × Doc Numeral) → Prop)
    (intended : Text → List (Text × Doc Numeral) → List (Text × Doc Numeral))
    (file : ConfigFile) : Prop where
  resolves : Resolves host workflow workspacesRoot requireDirectory
  edit : ∀ path key, targetOf host workflow workspacesRoot requireDirectory = .ok (path, key) →
    EditSafe host (asks key) (intended key) file

variable {host : Host} {workflow : Workflow} {workspacesRoot : Text} {requireDirectory : Bool}
  {file : ConfigFile} {path key : Text}

/-! ## The target -/

variable {resolved : Text}

theorem resolve_eq_ok :
    resolve host path = .ok resolved ↔ host.realpath path = some resolved := by
  unfold resolve
  rw [Checked.orFail_eq_ok]

/-- The parts of an accepted target. -/
structure Managed (host : Host) (workflow : Workflow) (workspacesRoot : Text)
    (requireDirectory : Bool) (path : Text) : Prop where
  recorded : ∃ recorded, recordedPath workflow.workspaceLease = some recorded ∧
    host.realpath recorded = some path
  root : ∃ realRoot, host.realpath workspacesRoot = some realRoot ∧
    isWithin path realRoot = true ∧ path ≠ realRoot
  own : host.realpath (leasePath workspacesRoot workflow.workflowId) = some path
  directory : requireDirectory = true → host.isDirectory path = true

theorem resolveManagedTarget_eq_ok :
    resolveManagedTarget host workflow workspacesRoot requireDirectory = .ok path ↔
      Managed host workflow workspacesRoot requireDirectory path := by
  unfold resolveManagedTarget
  simp only [bind_eq_ok, Checked.orFail_eq_ok, resolve_eq_ok, Checked.exists_passed, failIf_eq_ok,
    pure_eq_ok]
  constructor
  · rintro ⟨recorded, hrecorded, realRoot, hroot, realExpected, hexpected, realTarget, htarget,
      hwithin, howned, hdirectory, rfl⟩
    rw [not_or, not_not] at hwithin
    obtain rfl := not_not.mp howned
    refine ⟨⟨recorded, hrecorded, htarget⟩, ⟨realRoot, hroot, hwithin.1, hwithin.2⟩, hexpected,
      fun hrequire => ?_⟩
    by_contra hmissing
    exact hdirectory ⟨hrequire, hmissing⟩
  · rintro ⟨⟨recorded, hrecorded, htarget⟩, ⟨realRoot, hroot, hwithin, hother⟩, hexpected,
      hdirectory⟩
    refine ⟨recorded, hrecorded, realRoot, hroot, path, hexpected, path, htarget, ?_, ?_, ?_, rfl⟩
    · rintro (h | h)
      · exact h hwithin
      · exact hother h
    · exact not_not.mpr rfl
    · rintro ⟨hrequire, hmissing⟩
      exact hmissing (hdirectory hrequire)

theorem targetOf_eq_ok : targetOf host workflow workspacesRoot requireDirectory = .ok (path, key) ↔
    Managed host workflow workspacesRoot requireDirectory path ∧
      ∃ resolved, host.realpath path = some resolved ∧ key = host.normalize resolved := by
  unfold targetOf trustKey
  simp only [bind_eq_ok, pure_eq_ok, resolveManagedTarget_eq_ok, Prod.mk.injEq]
  constructor
  · rintro ⟨found, hmanaged, name, hname, rfl, rfl⟩
    refine ⟨hmanaged, ?_⟩
    cases hresolved : resolve host found with
    | error stop =>
        rw [hresolved] at hname
        cases hname
    | ok resolved =>
        rw [hresolved] at hname
        cases hname
        exact ⟨resolved, resolve_eq_ok.mp hresolved, rfl⟩
  · rintro ⟨hmanaged, resolved, hresolved, rfl⟩
    refine ⟨path, hmanaged, host.normalize resolved, ?_, rfl, rfl⟩
    rw [resolve_eq_ok.mpr hresolved]
    rfl

theorem resolve_of_none (h : host.realpath path = none) :
    resolve host path = .error (.raised .path) := by
  unfold resolve
  rw [h]
  rfl

theorem resolve_of_some (h : host.realpath path = some resolved) :
    resolve host path = .ok resolved :=
  resolve_eq_ok.mpr h

section

variable {α β : Type} {run : Except Stop α} {next : α → Except Stop β}

theorem returns_bind (hrun : Returns run)
    (hnext : ∀ value, run = .ok value → Returns (next value)) :
    Returns (run >>= next) := by
  intro exception h
  cases run with
  | error stop =>
      cases h
      exact hrun exception rfl
  | ok value => exact hnext value rfl exception h

theorem returns_pure (value : α) : Returns (pure value) := by
  rintro exception ⟨⟩

theorem returns_failIf (cond : Prop) [Decidable cond] (problem : Problem) :
    Returns (Checked.failIf cond (Stop.refused problem)) := by
  intro exception
  unfold Checked.failIf
  split
  · rintro ⟨⟩
  · rintro ⟨⟩

theorem returns_orFail (option : Option α) (problem : Problem) :
    Returns (Checked.orFail option (Stop.refused problem)) := by
  cases option with
  | none => rintro exception ⟨⟩
  | some value => rintro exception ⟨⟩

theorem returns_resolve (h : host.realpath path ≠ none) : Returns (resolve host path) := by
  obtain ⟨resolved, hresolved⟩ := Option.ne_none_iff_exists'.mp h
  rw [resolve_of_some hresolved]
  exact returns_pure resolved

end

/-- Finding the target returns exactly if the paths resolve. -/
theorem targetOf_returns : Returns (targetOf host workflow workspacesRoot requireDirectory) ↔
      Resolves host workflow workspacesRoot requireDirectory := by
  constructor
  · intro hreturns
    constructor
    · intro recorded hrecorded
      have hroot : host.realpath workspacesRoot ≠ none := by
        intro hnone
        apply hreturns .path
        simp [targetOf, resolveManagedTarget, hrecorded, resolve_of_none hnone, Checked.orFail,
          bind, Except.bind]
      obtain ⟨realRoot, hrealRoot⟩ := Option.ne_none_iff_exists'.mp hroot
      have hexpected : host.realpath (leasePath workspacesRoot workflow.workflowId) ≠ none := by
        intro hnone
        apply hreturns .path
        simp [targetOf, resolveManagedTarget, hrecorded, resolve_of_some hrealRoot,
          resolve_of_none hnone, Checked.orFail, bind, Except.bind]
      obtain ⟨realExpected, hrealExpected⟩ := Option.ne_none_iff_exists'.mp hexpected
      have htarget : host.realpath recorded ≠ none := by
        intro hnone
        apply hreturns .path
        simp [targetOf, resolveManagedTarget, hrecorded, resolve_of_some hrealRoot,
          resolve_of_some hrealExpected, resolve_of_none hnone, Checked.orFail, bind, Except.bind]
      simp [hroot, hexpected, htarget]
    · intro path hpath hnone
      apply hreturns .path
      simp [targetOf, hpath, trustKey, resolve_of_none hnone, bind, Except.bind, Except.map]
  · intro hresolves
    refine returns_bind ?_ fun path hpath => returns_bind ?_ fun key _ => returns_pure _
    · refine returns_bind (returns_orFail _ _) fun recorded hrecorded => ?_
      have hpaths := hresolves.paths recorded (by rwa [Checked.orFail_eq_ok] at hrecorded)
      refine returns_bind (returns_resolve (hpaths _ (by simp))) fun _ _ => ?_
      refine returns_bind (returns_resolve (hpaths _ (by simp))) fun _ _ => ?_
      refine returns_bind (returns_resolve (hpaths _ (by simp))) fun _ _ => ?_
      refine returns_bind (returns_failIf _ _) fun _ _ => ?_
      refine returns_bind (returns_failIf _ _) fun _ _ => ?_
      exact returns_bind (returns_failIf _ _) fun _ _ => returns_pure _
    · obtain ⟨resolved, hresolved⟩ := Option.ne_none_iff_exists'.mp (hresolves.target path hpath)
      unfold trustKey
      rw [resolve_of_some hresolved]
      exact returns_pure _

/-! ## An edit -/

variable {entries : List (Text × Doc Numeral)}

theorem parsed_of_readEntries (h : readEntries host file = .ok entries) :
    parsed host file = some (mapEntries Numeral.quantity entries) := by
  unfold parsed
  rw [h]

variable {before : List (Text × Doc Quantity)}

theorem readEntries_of_parsed
    (h : parsed host file = some before) : ∃ entries, readEntries host file = .ok entries ∧
      before = mapEntries Numeral.quantity entries := by
  unfold parsed at h
  split at h
  · cases h
  · next entries hread => exact ⟨entries, hread, (Option.some.inj h).symm⟩

theorem keepsNumbers_iff (entries : List (Text × Doc Numeral)) : KeepsNumbers entries ↔
    mapEntries Numeral.quantity (mapEntries (Numeral.rewritten Binary64) entries) =
      mapEntries Numeral.quantity entries := by
  have hiff := JsonText.map_eq_map
    (fun numeral : Numeral => (numeral.rewritten Binary64).quantity) Numeral.quantity
    (Doc.dict entries)
  rw [Doc.map, Doc.map, Doc.dict.injEq] at hiff
  rw [mapEntries_mapEntries]
  exact hiff.symm

/-- What an edit at a fixed key keeps. -/
structure EditCareful (host : Host) (operation : ConfigFile → Left)
    (intended : List (Text × Doc Quantity) → List (Text × Doc Quantity)) (file : ConfigFile) :
    Prop where
  returns : Returns (operation file).result
  refused : ∀ problem, (operation file).result = .error (.refused problem) →
    (operation file).file = file
  done : (operation file).result = .ok () → ∃ before, parsed host file = some before ∧
    parsed host (operation file).file = some (intended before)
  again : (operation file).result = .ok () →
    operation (operation file).file = ⟨.ok (), (operation file).file⟩

section

variable {change : {ν : Type} → List (Text × Doc ν) → Except Problem (Option (List (Text × Doc ν)))}
  {intended : {ν : Type} → List (Text × Doc ν) → List (Text × Doc ν)}
  {check : ConfigFile → Except Stop Unit} {asks : List (Text × Doc Numeral) → Prop}
  {numerals edited : List (Text × Doc Numeral)}

theorem edit_of_kept (hlawful : Lawful change intended)
    (hread : readEntries host file = .ok numerals)
    (hchange : change numerals = .ok none) : edit host change check file = ⟨.ok (), file⟩ := by
  unfold edit readDocument
  rw [hread]
  simp only [Except.map]
  rw [hlawful.change_map, hchange]
  rfl

theorem parsed_intended (hlawful : Lawful change intended)
    (hread : readEntries host file = .ok numerals) (hchange : change numerals = .ok none) :
    parsed host file = some (intended (mapEntries Numeral.quantity numerals)) := by
  rw [hlawful.intended_map, hlawful.kept hchange]
  exact parsed_of_readEntries hread

theorem edit_careful (hlawful : Lawful change intended)
    (hcheck : ∀ saved document, readDocument host saved = .ok document →
      change document = .ok none → check saved = .ok ())
    (hasks : ∀ entries, asks entries ↔ ∃ edited, change entries = .ok (some edited))
    (hsafe : EditSafe host asks (fun entries => intended entries) file) :
    EditCareful host (edit host change check) (fun entries => intended entries) file := by
  have houtcome := edit_outcome hlawful hcheck file
  generalize hleft : edit host change check file = left at houtcome
  cases houtcome with
  | unread stop hread =>
      have hstop : Returns (.error stop : Except Stop Unit) := by
        rintro exception ⟨⟩
        exact hsafe.read exception hread
      exact ⟨hleft ▸ hstop, by rw [hleft]; exact fun _ _ => rfl, by rw [hleft]; rintro ⟨⟩,
        by rw [hleft]; rintro ⟨⟩⟩
  | refused entries problem hread hchange =>
      exact ⟨by rw [hleft]; rintro exception ⟨⟩, by rw [hleft]; exact fun _ _ => rfl,
        by rw [hleft]; rintro ⟨⟩, by rw [hleft]; rintro ⟨⟩⟩
  | kept entries hread hchange =>
      constructor
      · rw [hleft]
        rintro exception ⟨⟩
      · rw [hleft]
        exact fun _ _ => rfl
      · rw [hleft]
        exact fun _ => ⟨_, parsed_of_readEntries hread, parsed_intended hlawful hread hchange⟩
      · rw [hleft]
        exact fun _ => hleft
  | unstated entries edited hread hchange hstat =>
      exact ⟨by rw [hleft]; rintro exception ⟨⟩, by rw [hleft]; exact fun _ _ => rfl,
        by rw [hleft]; rintro ⟨⟩, by rw [hleft]; rintro ⟨⟩⟩
  | unwritable entries edited exception hread hchange hstat hwritten =>
      have hcan := (hsafe.written entries hread ((hasks entries).mpr ⟨edited, hchange⟩) hstat).1
      rw [(hlawful.changed hchange).1] at hcan
      exact absurd hcan hwritten
  | unwritten entries edited hread hchange hstat hwritten hwrite =>
      exact ⟨by rw [hleft]; rintro exception ⟨⟩, by rw [hleft]; exact fun _ _ => rfl,
        by rw [hleft]; rintro ⟨⟩, by rw [hleft]; rintro ⟨⟩⟩
  | saved entries edited hread hchange hstat hwritten hwrite =>
      have hkeeps := (hsafe.written entries hread ((hasks entries).mpr ⟨edited, hchange⟩) hstat).2
        hwrite
      have hreread := readEntries_edited hlawful hread hchange hwritten
      rw [(hlawful.changed hchange).1] at hkeeps
      constructor
      · rw [hleft]
        rintro exception ⟨⟩
      · rw [hleft]
        rintro problem ⟨⟩
      · rw [hleft]
        refine fun _ => ⟨_, parsed_of_readEntries hread, ?_⟩
        rw [parsed_of_readEntries hreread, (keepsNumbers_iff edited).mp hkeeps,
          hlawful.intended_map, (hlawful.changed hchange).1]
      · rw [hleft]
        exact fun _ => edit_of_kept hlawful hreread (change_written hlawful hchange _)

/-- A careful edit is a safe one. -/
theorem editSafe_of_careful (hlawful : Lawful change intended)
    (hcheck : ∀ saved document, readDocument host saved = .ok document →
      change document = .ok none → check saved = .ok ())
    (hasks : ∀ entries, asks entries ↔ ∃ edited, change entries = .ok (some edited))
    (hcareful : EditCareful host (edit host change check) (fun entries => intended entries) file) :
    EditSafe host asks (fun entries => intended entries) file := by
  have houtcome := edit_outcome hlawful hcheck file
  obtain ⟨hreturns, -, hdone, -⟩ := hcareful
  generalize hleft : edit host change check file = left at houtcome hreturns hdone
  constructor
  · intro exception hraised
    apply hreturns exception
    unfold edit readDocument at hleft
    rw [hraised] at hleft
    rw [← hleft]
    rfl
  · intro numerals hread hnumerals hstat
    obtain ⟨edited, hchange⟩ := (hasks numerals).mp hnumerals
    obtain ⟨hintended, -⟩ := hlawful.changed hchange
    rw [hintended]
    cases houtcome with
    | unread stop hother => cases hread.symm.trans hother
    | refused other problem hother hrefused =>
        cases hread.symm.trans hother
        cases hchange.symm.trans hrefused
    | kept other hother hkept =>
        cases hread.symm.trans hother
        cases hchange.symm.trans hkept
    | unstated other found hother hfound hfails =>
        cases hstat.symm.trans hfails
    | unwritable other found exception hother hfound hstat hwritten =>
        exact absurd rfl (hreturns exception)
    | unwritten other found hother hfound hstat hwritten hwrite =>
        cases hread.symm.trans hother
        cases hchange.symm.trans hfound
        exact ⟨hwritten, fun hwrites => by cases hwrites.symm.trans hwrite⟩
    | saved other found hother hfound hstat hwritten hwrite =>
        cases hread.symm.trans hother
        cases hchange.symm.trans hfound
        refine ⟨hwritten, fun _ => (keepsNumbers_iff _).mpr ?_⟩
        obtain ⟨before, hbefore, hafter⟩ := hdone rfl
        rw [parsed_of_readEntries hread] at hbefore
        rw [parsed_of_readEntries (readEntries_edited hlawful hread hchange hwritten)] at hafter
        cases hbefore
        rw [hlawful.intended_map, hintended] at hafter
        exact Option.some.inj hafter

end

/-! ## The two operations -/

theorem isKey_unique {other : Text} (h : IsKey host workflow workspacesRoot key)
    (hother : IsKey host workflow workspacesRoot other) : other = key := by
  obtain ⟨path, resolved, hpath, hresolved, rfl⟩ := h
  obtain ⟨found, name, hfound, hname, rfl⟩ := hother
  cases hpath.symm.trans hfound
  cases hresolved.symm.trans hname
  rfl

theorem isKey_of_targetOf
    (h : targetOf host workflow workspacesRoot requireDirectory = .ok (path, key)) :
    IsKey host workflow workspacesRoot key := by
  obtain ⟨hmanaged, resolved, hresolved, hkey⟩ := targetOf_eq_ok.mp h
  exact ⟨path, resolved, hmanaged.own, hresolved, hkey⟩

theorem asksForFlag_iff (entries : List (Text × Doc Numeral)) : AsksForFlag key entries ↔
    ∃ edited, trusting key entries = .ok (some edited) := by
  unfold AsksForFlag trusting
  cases projectsOf entries with
  | error problem => simp [Except.bind]
  | ok projects =>
      simp only [Except.bind, Except.ok.injEq, exists_eq_left']
      cases lookupEntries key projects with
      | none => simp
      | some held =>
          cases held with
          | dict existing => simp
          | _ => simp

theorem asksForRemoval_iff (entries : List (Text × Doc Numeral)) : AsksForRemoval key entries ↔
    ∃ edited, revoking key entries = .ok (some edited) := by
  unfold AsksForRemoval revoking
  cases projectsOf entries with
  | error problem => simp [Except.map]
  | ok projects =>
      simp only [Except.map, Except.ok.injEq]
      cases hheld : lookupEntries key projects with
      | none => simp [hheld]
      | some held => simp [hheld]

theorem isTrusted_saved {saved : ConfigFile} {document : List (Text × Doc Held)}
    (hkey : trustKey host path = .ok key) (hread : readDocument host saved = .ok document)
    (hnone : trusting key document = .ok none) : isTrusted host saved path = .ok true := by
  obtain ⟨projects, hprojects, htrusted⟩ := trusting_eq_none.mp hnone
  unfold isTrusted
  rw [hread]
  simp only
  rw [hprojects]
  simp only
  rw [hkey, Except.map, htrusted]

theorem trustKey_of_targetOf
    (h : targetOf host workflow workspacesRoot requireDirectory = .ok (path, key)) :
    trustKey host path = .ok key := by
  obtain ⟨-, resolved, hresolved, rfl⟩ := targetOf_eq_ok.mp h
  unfold trustKey
  rw [resolve_of_some hresolved]
  rfl

section

variable {operation : ConfigFile → Left} {intended : Text → List (Text × Doc Quantity) →
  List (Text × Doc Quantity)}

theorem careful_of_target (hkey : IsKey host workflow workspacesRoot key) :
    Careful host workflow workspacesRoot operation intended file ↔
      EditCareful host operation (intended key) file := by
  constructor
  · rintro ⟨hreturns, hrefused, hdone, hagain⟩
    refine ⟨hreturns, hrefused, fun h => ?_, hagain⟩
    obtain ⟨other, before, hother, hbefore, hafter⟩ := hdone h
    exact ⟨before, hbefore, isKey_unique hkey hother ▸ hafter⟩
  · rintro ⟨hreturns, hrefused, hdone, hagain⟩
    refine ⟨hreturns, hrefused, fun h => ?_, hagain⟩
    obtain ⟨before, hbefore, hafter⟩ := hdone h
    exact ⟨key, before, hkey, hbefore, hafter⟩

theorem careful_of_error {stop : Stop} (hoperation : operation file = ⟨.error stop, file⟩) :
    Careful host workflow workspacesRoot operation intended file ↔
      Returns (.error stop : Except Stop Unit) := by
  constructor
  · intro h
    have hreturns := h.returns
    rwa [hoperation] at hreturns
  · intro h
    exact ⟨by rwa [hoperation], by rw [hoperation]; exact fun _ _ => rfl,
      by rw [hoperation]; rintro ⟨⟩, by rw [hoperation]; rintro ⟨⟩⟩

end

theorem returns_error {α β : Type} (stop : Stop) :
    Returns (.error stop : Except Stop α) ↔ Returns (.error stop : Except Stop β) := by
  unfold Returns
  simp only [ne_eq, Except.error.injEq]

variable {asks : Text → List (Text × Doc Numeral) → Prop}
  {intended : Text → List (Text × Doc Numeral) → List (Text × Doc Numeral)}

theorem safe_of_error {stop : Stop}
    (htarget : targetOf host workflow workspacesRoot requireDirectory = .error stop) :
    Safe host workflow workspacesRoot requireDirectory asks intended file ↔
      Returns (.error stop : Except Stop Unit) := by
  have hresolves : Returns (targetOf host workflow workspacesRoot requireDirectory) ↔
      Resolves host workflow workspacesRoot requireDirectory := targetOf_returns
  rw [htarget, returns_error (β := Unit)] at hresolves
  constructor
  · exact fun h => hresolves.mpr h.resolves
  · intro h
    refine ⟨hresolves.mp h, fun path key hother => ?_⟩
    rw [htarget] at hother
    cases hother

theorem safe_of_target
    (htarget : targetOf host workflow workspacesRoot requireDirectory = .ok (path, key)) :
    Safe host workflow workspacesRoot requireDirectory asks intended file ↔
      EditSafe host (asks key) (intended key) file := by
  constructor
  · exact fun h => h.edit path key htarget
  · intro h
    refine ⟨targetOf_returns.mp ?_, fun other name hother => ?_⟩
    · rw [htarget]
      exact returns_pure _
    · cases htarget.symm.trans hother
      exact h

theorem establish_eq (htarget : targetOf host workflow workspacesRoot true = .ok (path, key)) :
    establish host workflow workspacesRoot = edit host (trusting key) (fun saved => do
      let trusted ← isTrusted host saved path
      Checked.failIf (¬ trusted) (.refused .readbackMismatch)) := by
  funext file
  unfold establish
  rw [htarget]

theorem establish_checks (hkey : trustKey host path = .ok key) (saved : ConfigFile)
    (document : List (Text × Doc Held)) (hread : readDocument host saved = .ok document)
    (hnone : trusting key document = .ok none) :
    (do
      let trusted ← isTrusted host saved path
      Checked.failIf (¬ trusted) (.refused .readbackMismatch)) = .ok () := by
  rw [isTrusted_saved hkey hread hnone]
  rfl

theorem revoke_eq (htarget : targetOf host workflow workspacesRoot false = .ok (path, key)) :
    revoke host workflow workspacesRoot = edit host (revoking key) (fun saved => do
      let fresh ← readDocument host saved
      Checked.failIf (¬ entryIsGone key fresh) (.refused .revokeReadback)) := by
  funext file
  unfold revoke
  rw [htarget]

theorem revoke_checks (saved : ConfigFile) (document : List (Text × Doc Held))
    (hread : readDocument host saved = .ok document) (hnone : revoking key document = .ok none) :
    (do
      let fresh ← readDocument host saved
      Checked.failIf (¬ entryIsGone key fresh) (.refused .revokeReadback)) = .ok () := by
  rw [hread]
  simp only [bind, Except.bind]
  rw [revoking_eq_none.mp hnone]
  rfl

theorem establish_careful_iff :
    Careful host workflow workspacesRoot (establish host workflow workspacesRoot) withFlag file ↔
      Safe host workflow workspacesRoot true AsksForFlag withFlag file := by
  cases htarget : targetOf host workflow workspacesRoot true with
  | error stop =>
      rw [safe_of_error htarget]
      apply careful_of_error
      unfold establish
      rw [htarget]
  | ok target =>
      obtain ⟨path, key⟩ := target
      have hcheck := establish_checks (trustKey_of_targetOf htarget)
      rw [safe_of_target htarget, careful_of_target (isKey_of_targetOf htarget),
        establish_eq htarget]
      exact ⟨editSafe_of_careful (lawful_trusting key) hcheck asksForFlag_iff,
        edit_careful (lawful_trusting key) hcheck asksForFlag_iff⟩

theorem revoke_careful_iff :
    Careful host workflow workspacesRoot (revoke host workflow workspacesRoot) withoutEntry file ↔
      Safe host workflow workspacesRoot false AsksForRemoval withoutEntry file := by
  cases htarget : targetOf host workflow workspacesRoot false with
  | error stop =>
      rw [safe_of_error htarget]
      apply careful_of_error
      unfold revoke
      rw [htarget]
  | ok target =>
      obtain ⟨path, key⟩ := target
      rw [safe_of_target htarget, careful_of_target (isKey_of_targetOf htarget), revoke_eq htarget]
      exact ⟨editSafe_of_careful (lawful_revoking key) revoke_checks asksForRemoval_iff,
        edit_careful (lawful_revoking key) revoke_checks asksForRemoval_iff⟩

/-! ## Establishing and then revoking -/

theorem canBeWritten_rewritten (entries : List (Text × Doc Numeral)) :
    CanBeWritten host (mapEntries (Numeral.rewritten Binary64) entries) ↔
      CanBeWritten host entries := by
  unfold CanBeWritten
  rw [depth_rewritten, all_rewritten]

theorem canBeWritten_withoutEntry
    (h : CanBeWritten host entries) : CanBeWritten host (withoutEntry key entries) :=
  ⟨depth_withoutEntry h.1, all_withoutEntry (closed_anyKeys _ _) h.2⟩

theorem keepsNumbers_withoutEntry
    (h : KeepsNumbers entries) : KeepsNumbers (withoutEntry key entries) :=
  all_withoutEntry (closed_anyKeys _ _) h

/-- The new entry of a configuration that had none is what is removed again. -/
theorem revoking_trusting {ν : Type} {entries edited projects : List (Text × Doc ν)}
    (hprojects : projectsOf entries = .ok projects) (habsent : lookupEntries key projects = none)
    (h : trusting key entries = .ok (some edited)) : revoking key edited = .ok (some entries) := by
  obtain ⟨found, hfound, rfl⟩ := trusting_eq_some h
  cases hprojects.symm.trans hfound
  unfold revoking
  rw [projectsOf_withProjects, Except.map, Dict.lookupEntries_setEntries, if_pos rfl]
  simp only
  rw [without_setEntries habsent, withProjects_withProjects, withProjects_self hprojects]

variable {projects : List (Text × Doc Quantity)}

theorem absent_of_quantities
    (hprojects : projectsOf (mapEntries Numeral.quantity entries) = .ok projects)
    (habsent : lookupEntries key projects = none) :
    ∃ found, projectsOf entries = .ok found ∧ lookupEntries key found = none := by
  rw [projectsOf_mapEntries] at hprojects
  cases hfound : projectsOf entries with
  | error problem =>
      rw [hfound] at hprojects
      cases hprojects
  | ok found =>
      rw [hfound] at hprojects
      cases hprojects
      rw [lookupEntries_mapEntries, Option.map_eq_none_iff] at habsent
      exact ⟨found, rfl, habsent⟩

theorem targetOf_undirected
    (htarget : targetOf host workflow workspacesRoot true = .ok (path, key)) :
    targetOf host workflow workspacesRoot false = .ok (path, key) := by
  rw [targetOf_eq_ok] at htarget ⊢
  obtain ⟨⟨hrecorded, hroot, hown, -⟩, hresolved⟩ := htarget
  exact ⟨⟨hrecorded, hroot, hown, by rintro ⟨⟩⟩, hresolved⟩

/-- Removing the entry of rewritten numbers gives back what they were rewritten from. -/
theorem revoke_restores {numerals edited : List (Text × Doc Numeral)}
    (htarget : targetOf host workflow workspacesRoot false = .ok (path, key))
    (hread : readEntries host file = .ok (mapEntries (Numeral.rewritten Binary64) edited))
    (hundo : revoking key edited = .ok (some numerals)) (hwritten : CanBeWritten host numerals)
    (hkeeps : KeepsNumbers numerals) (hstat : host.statFails = false)
    (hwrite : host.writeFails = false) :
    (revoke host workflow workspacesRoot file).result = .ok () ∧
      parsed host (revoke host workflow workspacesRoot file).file =
        some (mapEntries Numeral.quantity numerals) := by
  have hchange : revoking key (mapEntries (Numeral.rewritten Binary64) edited) =
      .ok (some (mapEntries (Numeral.rewritten Binary64) numerals)) := by
    rw [revoking_map, hundo]
    rfl
  have houtcome : Outcome host file (fun entries => revoking key entries)
      (revoke host workflow workspacesRoot file) := by
    rw [revoke_eq htarget]
    exact edit_outcome (lawful_revoking key) revoke_checks file
  generalize revoke host workflow workspacesRoot file = left at houtcome
  cases houtcome with
  | unread stop hother => cases hread.symm.trans hother
  | refused entries problem hother hrefused =>
      cases hread.symm.trans hother
      cases hchange.symm.trans hrefused
  | kept entries hother hkept =>
      cases hread.symm.trans hother
      cases hchange.symm.trans hkept
  | unstated entries found hother hfound hfails => cases hstat.symm.trans hfails
  | unwritable entries found exception hother hfound hstat hnot =>
      cases hread.symm.trans hother
      cases hchange.symm.trans hfound
      exact absurd ((canBeWritten_rewritten numerals).mpr hwritten) hnot
  | unwritten entries found hother hfound hstat hcan hfails => cases hwrite.symm.trans hfails
  | saved entries found hother hfound hstat hcan hwrites =>
      cases hread.symm.trans hother
      cases hchange.symm.trans hfound
      refine ⟨rfl, ?_⟩
      rw [parsed_of_readEntries (readEntries_edited (lawful_revoking key) hread hchange hcan),
        mapEntries_mapEntries (Numeral.rewritten Binary64) (Numeral.rewritten Binary64),
        ← (keepsNumbers_iff numerals).mp hkeeps]
      simp only [JsonText.rewritten_rewritten]

/-- Revoking after establishing gives the original back. -/
theorem restores_of_safe (hsafe : Safe host workflow workspacesRoot true AsksForFlag withFlag file)
    (hkey : IsKey host workflow workspacesRoot key) (hparsed : parsed host file = some before)
    (hprojects : projectsOf before = .ok projects) (habsent : lookupEntries key projects = none)
    (hdone : (establish host workflow workspacesRoot file).result = .ok ()) :
    (revoke host workflow workspacesRoot
        (establish host workflow workspacesRoot file).file).result = .ok () ∧
      parsed host (revoke host workflow workspacesRoot
        (establish host workflow workspacesRoot file).file).file = some before := by
  obtain ⟨numerals, hread, rfl⟩ := readEntries_of_parsed hparsed
  obtain ⟨found, hfound, hmissing⟩ := absent_of_quantities hprojects habsent
  cases htarget : targetOf host workflow workspacesRoot true with
  | error stop =>
      unfold establish at hdone
      rw [htarget] at hdone
      cases hdone
  | ok target =>
      obtain ⟨path, name⟩ := target
      obtain rfl := isKey_unique hkey (isKey_of_targetOf htarget)
      have hedit := hsafe.edit path name htarget
      have hfirst := edit_outcome (lawful_trusting name)
        (establish_checks (trustKey_of_targetOf htarget)) file
      rw [← establish_eq htarget] at hfirst
      generalize hleft : establish host workflow workspacesRoot file = left at hfirst hdone ⊢
      cases hfirst with
      | unread stop hother => cases hread.symm.trans hother
      | refused entries problem hother hchange => cases hdone
      | kept entries hother hchange =>
          cases hread.symm.trans hother
          obtain ⟨held, hheld, htrusted⟩ := trusting_eq_none.mp hchange
          cases hfound.symm.trans hheld
          unfold entryIsTrusted at htrusted
          rw [hmissing] at htrusted
          cases htrusted
      | unstated entries edited hother hchange hstat => cases hdone
      | unwritable entries edited exception hother hchange hstat hwritten => cases hdone
      | unwritten entries edited hother hchange hstat hwritten hwrite => cases hdone
      | saved entries edited hother hchange hstat hwritten hwrite =>
          cases hread.symm.trans hother
          have hkeeps := (hedit.written _ hread ((asksForFlag_iff _).mpr ⟨edited, hchange⟩) hstat).2
            hwrite
          rw [((lawful_trusting name).changed hchange).1] at hkeeps
          have hreread := readEntries_edited (lawful_trusting name) hread hchange hwritten
          have hundo := revoking_trusting hfound hmissing hchange
          have hgone := ((lawful_revoking name).changed hundo).1
          exact revoke_restores (targetOf_undirected htarget) hreread hundo
            (hgone ▸ canBeWritten_withoutEntry hwritten)
            (hgone ▸ keepsNumbers_withoutEntry hkeeps) hstat hwrite

/-- A trust write changes one entry and nothing else exactly where it is safe. -/
theorem changesOneEntry_iff (host : Host) (workflow : Workflow) (workspacesRoot : Text)
    (file : ConfigFile) : ChangesOneEntry host workflow workspacesRoot file ↔
      Safe host workflow workspacesRoot true AsksForFlag withFlag file ∧
        Safe host workflow workspacesRoot false AsksForRemoval withoutEntry file := by
  constructor
  · rintro ⟨hestablishes, hrevokes, -⟩
    exact ⟨establish_careful_iff.mp hestablishes, revoke_careful_iff.mp hrevokes⟩
  · rintro ⟨hestablish, hrevoke⟩
    refine ⟨establish_careful_iff.mpr hestablish, revoke_careful_iff.mpr hrevoke, ?_⟩
    intro key before projects hkey hparsed hprojects habsent hdone
    exact restores_of_safe hestablish hkey hparsed hprojects habsent hdone

/-! ## A configuration with a lone surrogate -/

def plainHost : Host :=
  ⟨some, fun _ => true, id, 1000, 300, false, false, by decide⟩

def trustedWorkflow : Workflow :=
  ⟨ofString "w", .dict [(ofString "path_realpath", .text (ofString "/ws/w"))]⟩

def surrogateText : String := "\x7b\"projects\": \x7b\x7d, \"x\": \"\\ud800\"\x7d"

def surrogateFile : ConfigFile := .content (Encoding.encodeUtf8 surrogateText)

/-- A configuration that has no entry under a key, and a text that is not encoded. -/
def isUnwritable (key : Text) : Except JsonText.Unread (Doc Numeral) → Bool
  | .ok (.dict entries) =>
      match projectsOf entries with
      | .ok projects => (lookupEntries key projects).isNone &&
          ! (Doc.dict (withFlag key entries)).all ⟨isPlain, fun _ => true, fun _ => true⟩
      | .error _ => false
  | _ => false

theorem surrogateText_isUnwritable :
    isUnwritable (ofString "/ws/w") (JsonText.readDoc 1000 surrogateText.toList) = true := by
  decide +kernel

theorem entries_of_isUnwritable (host : Host) {read : Except JsonText.Unread (Doc Numeral)}
    (h : isUnwritable key read = true) : ∃ entries, read = .ok (.dict entries) ∧
      AsksForFlag key entries ∧ ¬ CanBeWritten host (withFlag key entries) := by
  unfold isUnwritable at h
  split at h
  · next entries =>
      split at h
      · next projects hprojects =>
          rw [Bool.and_eq_true] at h
          obtain ⟨habsent, hplain⟩ := h
          refine ⟨entries, rfl, ?_, fun hwritten => ?_⟩
          · exact ⟨projects, hprojects, Or.inl (Option.isNone_iff_eq_none.mp habsent)⟩
          · rw [hwritten.2] at hplain
            cases hplain
      · cases h
  · cases h

theorem targetOf_trusted : targetOf plainHost trustedWorkflow (ofString "/ws") true =
    .ok (ofString "/ws/w", ofString "/ws/w") := by
  decide +kernel

/-- A text with a lone surrogate cannot be encoded, and the exception leaves the call. -/
theorem surrogate_not_kept :
    ¬ ChangesOneEntry plainHost trustedWorkflow (ofString "/ws") surrogateFile := by
  intro h
  have hedit := (establish_careful_iff.mp h.establishes).edit _ _ targetOf_trusted
  obtain ⟨entries, hread, hasks, hnot⟩ :=
    entries_of_isUnwritable plainHost surrogateText_isUnwritable
  have hentries : readEntries plainHost surrogateFile = .ok entries := by
    unfold readEntries surrogateFile
    simp only
    rw [Encoding.decodeUtf8_encodeUtf8]
    simp only
    rw [show plainHost.readDepth = 1000 from rfl, hread]
  exact hnot (hedit.written entries hentries hasks rfl).1

end DodgingInfinity.WorkspaceTrust
