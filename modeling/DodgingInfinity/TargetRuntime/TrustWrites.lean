import DodgingInfinity.TargetRuntime.WorkspaceTrust

/-!
# What a trust write changes

An edit of the configuration acts on documents over any numbers in the same way.  What
is written is read back, so the written configuration denotes the edited one exactly if
every number in it is written as the number it is.
-/

namespace DodgingInfinity.WorkspaceTrust

open Checked (bind_eq_ok pure_eq_ok failIf_eq_ok)
open Dict (lookupEntries setEntries)
open Framing (Bytes)
open JsonText (Doc Test Number Numeral Quantity Binary64 mapEntries regular printable isPlain)
open Values (Text)

variable {ν μ : Type} {key other : Text} {value : Doc ν} {entries projects : List (Text × Doc ν)}

/-! ## Entries -/

theorem lookupEntries_mapEntries (f : ν → μ) (key : Text) (entries : List (Text × Doc ν)) :
    lookupEntries key (mapEntries f entries) = (lookupEntries key entries).map (Doc.map f) := by
  induction entries with
  | nil => rfl
  | cons entry rest ih =>
      obtain ⟨name, held⟩ := entry
      rw [mapEntries, lookupEntries, lookupEntries, ih]
      split
      · rfl
      · rfl

theorem setEntries_mapEntries (f : ν → μ) (key : Text) (value : Doc ν)
    (entries : List (Text × Doc ν)) : setEntries key (value.map f) (mapEntries f entries) =
      mapEntries f (setEntries key value entries) := by
  induction entries with
  | nil => rfl
  | cons entry rest ih =>
      obtain ⟨name, held⟩ := entry
      rw [mapEntries, setEntries, setEntries, ih]
      split
      · rfl
      · rfl

theorem without_mapEntries (f : ν → μ) (key : Text) (entries : List (Text × Doc ν)) :
    without key (mapEntries f entries) = mapEntries f (without key entries) := by
  unfold without
  rw [JsonText.mapEntries_eq, JsonText.mapEntries_eq, List.filter_map]
  rfl

theorem setEntries_setEntries (key : Text) (first second : Doc ν) (entries : List (Text × Doc ν)) :
    setEntries key second (setEntries key first entries) = setEntries key second entries := by
  induction entries with
  | nil => simp [setEntries]
  | cons entry rest ih =>
      obtain ⟨name, held⟩ := entry
      by_cases hname : name = key
      · simp [setEntries, hname]
      · simp [setEntries, hname, ih]

theorem setEntries_self (h : lookupEntries key entries = some value) :
    setEntries key value entries = entries := by
  obtain ⟨before, after, hsplit, -, hset⟩ := Dict.setEntries_of_held h
  rw [hset, hsplit]

theorem without_of_fresh (h : lookupEntries key entries = none) :
    without key entries = entries := by
  rw [Dict.lookupEntries_eq_none_iff] at h
  apply List.filter_eq_self.mpr
  intro entry hmem
  exact decide_eq_true fun heq => h (heq ▸ List.mem_map_of_mem hmem)

theorem without_setEntries (h : lookupEntries key entries = none) :
    without key (setEntries key value entries) = entries := by
  have hfresh := (Dict.lookupEntries_eq_none_iff key entries).mp h
  have hsame := without_of_fresh h
  unfold without at hsame ⊢
  rw [Dict.setEntries_of_fresh hfresh, List.filter_append, hsame]
  simp

theorem lookupEntries_without (key : Text) (entries : List (Text × Doc ν)) :
    lookupEntries key (without key entries) = none := by
  rw [Dict.lookupEntries_eq_none_iff]
  intro hmem
  obtain ⟨entry, hentry, heq⟩ := List.mem_map.mp hmem
  exact of_decide_eq_true (List.mem_filter.mp hentry).2 heq

/-! ## The parts of a configuration -/

theorem projectsOf_eq_ok : projectsOf entries = .ok projects ↔ lookupEntries projectsKey entries =
      some (.dict projects) := by
  unfold projectsOf
  split
  · next h => simp [h]
  · next held h => simp [h]
  · next held hother h =>
      rw [h]
      refine iff_of_false (by rintro ⟨⟩) fun heq => ?_
      exact hother projects (Option.some.inj heq)

theorem projectsOf_mapEntries (f : ν → μ) (entries : List (Text × Doc ν)) :
    projectsOf (mapEntries f entries) = (projectsOf entries).map (mapEntries f) := by
  unfold projectsOf
  rw [lookupEntries_mapEntries]
  cases lookupEntries projectsKey entries with
  | none => rfl
  | some held => cases held <;> rfl

theorem isFlagged_mapEntries (f : ν → μ) (entry : List (Text × Doc ν)) :
    isFlagged (mapEntries f entry) = isFlagged entry := by
  unfold isFlagged
  rw [lookupEntries_mapEntries]
  cases lookupEntries flagKey entry with
  | none => rfl
  | some held =>
      cases held with
      | bool flag => cases flag <;> rfl
      | _ => rfl

theorem flagged_mapEntries (f : ν → μ) (entry : List (Text × Doc ν)) :
    flagged (mapEntries f entry) = (flagged entry).map f := by
  unfold flagged
  rw [Doc.map, ← setEntries_mapEntries]
  rfl

theorem withProjects_mapEntries (f : ν → μ) (projects entries : List (Text × Doc ν)) :
    withProjects (mapEntries f projects) (mapEntries f entries) =
      mapEntries f (withProjects projects entries) := by
  unfold withProjects
  rw [← setEntries_mapEntries]
  rfl

theorem projectsOf_withProjects (projects entries : List (Text × Doc ν)) :
    projectsOf (withProjects projects entries) = .ok projects := by
  rw [projectsOf_eq_ok, withProjects, Dict.lookupEntries_setEntries, if_pos rfl]

theorem withProjects_withProjects (first second entries : List (Text × Doc ν)) :
    withProjects second (withProjects first entries) = withProjects second entries :=
  setEntries_setEntries _ _ _ _

theorem withProjects_self (h : projectsOf entries = .ok projects) :
    withProjects projects entries = entries :=
  setEntries_self (projectsOf_eq_ok.mp h)

/-- What an entry holds; a missing one and a null hold nothing. -/
def entryOf (key : Text) (projects : List (Text × Doc ν)) : List (Text × Doc ν) :=
  match lookupEntries key projects with
  | some (.dict entry) => entry
  | _ => []

/-- The configuration with the trust flag set in the entry under a key. -/
def withFlag (key : Text) (entries : List (Text × Doc ν)) : List (Text × Doc ν) :=
  match projectsOf entries with
  | .ok projects => withProjects (setEntries key (flagged (entryOf key projects)) projects) entries
  | .error _ => entries

/-- The configuration without the entry under a key. -/
def withoutEntry (key : Text) (entries : List (Text × Doc ν)) : List (Text × Doc ν) :=
  match projectsOf entries with
  | .ok projects => withProjects (without key projects) entries
  | .error _ => entries

theorem entryOf_eq {entry : List (Text × Doc ν)}
    (h : lookupEntries key projects = some (.dict entry)) : entryOf key projects = entry := by
  unfold entryOf
  rw [h]

theorem withFlag_eq (h : projectsOf entries = .ok projects) : withFlag key entries =
    withProjects (setEntries key (flagged (entryOf key projects)) projects) entries := by
  unfold withFlag
  rw [h]

theorem entryOf_mapEntries (f : ν → μ) (key : Text) (projects : List (Text × Doc ν)) :
    entryOf key (mapEntries f projects) = mapEntries f (entryOf key projects) := by
  unfold entryOf
  rw [lookupEntries_mapEntries]
  cases lookupEntries key projects with
  | none => rfl
  | some held => cases held <;> rfl

theorem withFlag_mapEntries (f : ν → μ) (key : Text) (entries : List (Text × Doc ν)) :
    withFlag key (mapEntries f entries) = mapEntries f (withFlag key entries) := by
  unfold withFlag
  rw [projectsOf_mapEntries]
  cases projectsOf entries with
  | error problem => rfl
  | ok projects =>
      simp only [Except.map]
      rw [entryOf_mapEntries, flagged_mapEntries, setEntries_mapEntries, withProjects_mapEntries]

theorem withoutEntry_mapEntries (f : ν → μ) (key : Text) (entries : List (Text × Doc ν)) :
    withoutEntry key (mapEntries f entries) = mapEntries f (withoutEntry key entries) := by
  unfold withoutEntry
  rw [projectsOf_mapEntries]
  cases projectsOf entries with
  | error problem => rfl
  | ok projects =>
      simp only [Except.map]
      rw [without_mapEntries, withProjects_mapEntries]

theorem isFlagged_flagged (entry : List (Text × Doc ν)) :
    isFlagged (setEntries flagKey (.bool true) entry) = true := by
  unfold isFlagged
  rw [Dict.lookupEntries_setEntries, if_pos rfl]

theorem flagged_self {entry : List (Text × Doc ν)} (h : isFlagged entry = true) :
    flagged entry = .dict entry := by
  unfold isFlagged at h
  split at h
  · next hflag => rw [flagged, setEntries_self hflag]
  · cases h

/-! ## Tests and depths of an edited configuration -/

/-- A test of keys that allows a new key at the end and leaving keys out. -/
structure Closed (test : Test ν) : Prop where
  fresh : ∀ keys key, test.keys keys = true → key ∉ keys → test.keys (keys ++ [key]) = true
  sublist : ∀ keys fewer, List.Sublist fewer keys → test.keys keys = true → test.keys fewer = true

theorem closed_regular : Closed regular := by
  constructor
  · intro keys key hkeys hfresh
    refine decide_eq_true (List.nodup_append.mpr ⟨of_decide_eq_true hkeys,
      List.nodup_singleton _, ?_⟩)
    intro held hheld new hnew heq
    rw [List.mem_singleton] at hnew
    exact hfresh (hnew ▸ heq ▸ hheld)
  · intro keys fewer hsublist hkeys
    exact decide_eq_true (hsublist.nodup (of_decide_eq_true hkeys))

theorem closed_anyKeys (text : Text → Bool) (number : ν → Bool) :
    Closed ⟨text, number, fun _ => true⟩ :=
  ⟨fun _ _ _ _ => rfl, fun _ _ _ _ => rfl⟩

variable {test : Test ν} {bound : Nat}

theorem all_setEntries (hclosed : Closed test) (hkey : test.text key = true)
    (hvalue : value.all test = true) (h : (Doc.dict entries).all test = true) :
    (Doc.dict (setEntries key value entries)).all test = true := by
  obtain ⟨hkeys, hentries⟩ := JsonText.all_dict.mp h
  refine JsonText.all_dict.mpr ⟨?_, fun entry hmem => ?_⟩
  · rw [Dict.keys_setEntries]
    split
    · exact hkeys
    · next hfresh => exact hclosed.fresh _ _ hkeys hfresh
  · rcases JsonText.mem_setEntries hmem with rfl | hheld
    · exact ⟨hkey, hvalue⟩
    · exact hentries entry hheld

theorem all_without (hclosed : Closed test) (h : (Doc.dict entries).all test = true) :
    (Doc.dict (without key entries)).all test = true := by
  obtain ⟨hkeys, hentries⟩ := JsonText.all_dict.mp h
  refine JsonText.all_dict.mpr ⟨?_, fun entry hmem => hentries entry (List.mem_of_mem_filter hmem)⟩
  exact hclosed.sublist _ _ (List.filter_sublist.map _) hkeys

theorem all_of_lookup (h : (Doc.dict entries).all test = true)
    (hlookup : lookupEntries key entries = some value) :
    test.text key = true ∧ value.all test = true :=
  (JsonText.all_dict.mp h).2 (key, value) (Dict.mem_of_lookupEntries hlookup)

theorem depth_dict_le : (Doc.dict entries).depth ≤ bound + 1 ↔
    ∀ entry ∈ entries, entry.2.depth ≤ bound := by
  rw [Doc.depth, Nat.add_le_add_iff_right, JsonText.depthOfEntries_le]

theorem depth_setEntries (hvalue : value.depth ≤ bound) (h : (Doc.dict entries).depth ≤ bound + 1) :
    (Doc.dict (setEntries key value entries)).depth ≤ bound + 1 := by
  rw [depth_dict_le] at h ⊢
  intro entry hmem
  rcases JsonText.mem_setEntries hmem with rfl | hheld
  · exact hvalue
  · exact h entry hheld

theorem depth_without (h : (Doc.dict entries).depth ≤ bound + 1) :
    (Doc.dict (without key entries)).depth ≤ bound + 1 := by
  rw [depth_dict_le] at h ⊢
  exact fun entry hmem => h entry (List.mem_of_mem_filter hmem)

theorem depth_of_lookup (h : (Doc.dict entries).depth ≤ bound + 1)
    (hlookup : lookupEntries key entries = some value) : value.depth ≤ bound :=
  depth_dict_le.mp h (key, value) (Dict.mem_of_lookupEntries hlookup)

theorem all_entryOf (hempty : test.keys [] = true) (h : (Doc.dict projects).all test = true) :
    (Doc.dict (entryOf key projects)).all test = true := by
  unfold entryOf
  split
  · next entry hentry => exact (all_of_lookup h hentry).2
  · exact JsonText.all_dict.mpr ⟨hempty, fun entry hmem => absurd hmem List.not_mem_nil⟩

theorem depth_entryOf (h : (Doc.dict projects).depth ≤ bound + 2) :
    (Doc.dict (entryOf key projects)).depth ≤ bound + 1 := by
  unfold entryOf
  split
  · next entry hentry => exact depth_of_lookup h hentry
  · exact Nat.succ_le_succ (Nat.zero_le _)

theorem all_withFlag (hclosed : Closed test) (hempty : test.keys [] = true)
    (hkey : test.text key = true) (hflag : test.text flagKey = true)
    (h : (Doc.dict entries).all test = true) :
    (Doc.dict (withFlag key entries)).all test = true := by
  unfold withFlag
  cases hprojects : projectsOf entries with
  | error problem => exact h
  | ok projects =>
      obtain ⟨hname, hheld⟩ := all_of_lookup h (projectsOf_eq_ok.mp hprojects)
      refine all_setEntries hclosed hname (all_setEntries hclosed hkey ?_ hheld) h
      exact all_setEntries hclosed hflag rfl (all_entryOf hempty hheld)

theorem all_withoutEntry (hclosed : Closed test) (h : (Doc.dict entries).all test = true) :
    (Doc.dict (withoutEntry key entries)).all test = true := by
  unfold withoutEntry
  cases hprojects : projectsOf entries with
  | error problem => exact h
  | ok projects =>
      obtain ⟨hname, hheld⟩ := all_of_lookup h (projectsOf_eq_ok.mp hprojects)
      exact all_setEntries hclosed hname (all_without hclosed hheld) h

theorem depth_withFlag (hbound : 3 ≤ bound) (h : (Doc.dict entries).depth ≤ bound) :
    (Doc.dict (withFlag key entries)).depth ≤ bound := by
  obtain ⟨less, rfl⟩ := Nat.exists_eq_add_of_le' hbound
  unfold withFlag
  cases hprojects : projectsOf entries with
  | error problem => exact h
  | ok projects =>
      have hheld := depth_of_lookup h (projectsOf_eq_ok.mp hprojects)
      refine depth_setEntries (depth_setEntries ?_ hheld) h
      exact depth_setEntries (Nat.zero_le _) (depth_entryOf hheld)

theorem depth_withoutEntry (h : (Doc.dict entries).depth ≤ bound) :
    (Doc.dict (withoutEntry key entries)).depth ≤ bound := by
  unfold withoutEntry
  cases hprojects : projectsOf entries with
  | error problem => exact h
  | ok projects =>
      have hone : 1 ≤ bound := (Nat.le_add_left 1 _).trans h
      obtain ⟨less, rfl⟩ := Nat.exists_eq_add_of_le' hone
      have hheld := depth_of_lookup h (projectsOf_eq_ok.mp hprojects)
      have htwo : 1 ≤ less := (Nat.le_add_left 1 _).trans hheld
      obtain ⟨fewer, rfl⟩ := Nat.exists_eq_add_of_le' htwo
      exact depth_setEntries (depth_without hheld) h

/-! ## The two changes -/

/-- A change that writes what it intends, or nothing where that is there already. -/
structure Lawful (change : {ν : Type} → List (Text × Doc ν) →
      Except Problem (Option (List (Text × Doc ν))))
    (intended : {ν : Type} → List (Text × Doc ν) → List (Text × Doc ν)) : Prop where
  change_map : ∀ {ν μ : Type} (f : ν → μ) (entries : List (Text × Doc ν)),
    change (mapEntries f entries) = (change entries).map (Option.map (mapEntries f))
  intended_map : ∀ {ν μ : Type} (f : ν → μ) (entries : List (Text × Doc ν)),
    intended (mapEntries f entries) = mapEntries f (intended entries)
  kept : ∀ {ν : Type} {entries : List (Text × Doc ν)}, change entries = .ok none →
    intended entries = entries
  changed : ∀ {ν : Type} {entries edited : List (Text × Doc ν)},
    change entries = .ok (some edited) → intended entries = edited ∧ change edited = .ok none
  all_regular : ∀ {entries : List (Text × Doc Numeral)},
    (Doc.dict entries).all regular = true → (Doc.dict (intended entries)).all regular = true
  depth : ∀ {bound : Nat} {entries : List (Text × Doc Numeral)}, 3 ≤ bound →
    (Doc.dict entries).depth ≤ bound → (Doc.dict (intended entries)).depth ≤ bound

theorem trusting_map (f : ν → μ) (key : Text) (entries : List (Text × Doc ν)) :
    trusting key (mapEntries f entries) =
      (trusting key entries).map (Option.map (mapEntries f)) := by
  have hempty : flagged ([] : List (Text × Doc μ)) = (flagged []).map f :=
    flagged_mapEntries f []
  unfold trusting
  rw [projectsOf_mapEntries]
  cases projectsOf entries with
  | error problem => rfl
  | ok projects =>
      simp only [Except.map, Except.bind]
      rw [lookupEntries_mapEntries]
      cases lookupEntries key projects with
      | none =>
          simp only [Option.map_none]
          rw [hempty, setEntries_mapEntries, withProjects_mapEntries]
          rfl
      | some held =>
          cases held with
          | null =>
              simp only [Option.map_some, Doc.map]
              rw [hempty, setEntries_mapEntries, withProjects_mapEntries]
          | dict existing =>
              simp only [Option.map_some, Doc.map]
              rw [isFlagged_mapEntries]
              split
              · rfl
              · rw [flagged_mapEntries, setEntries_mapEntries, withProjects_mapEntries]
                rfl
          | _ => rfl

theorem entryIsTrusted_eq_true : entryIsTrusted key projects = true ↔
    ∃ entry, lookupEntries key projects = some (.dict entry) ∧ isFlagged entry = true := by
  unfold entryIsTrusted
  cases lookupEntries key projects with
  | none => simp
  | some held => cases held <;> simp

/-- Nothing is to be written exactly if the entry is trusted. -/
theorem trusting_eq_none : trusting key entries = .ok none ↔
    ∃ projects, projectsOf entries = .ok projects ∧ entryIsTrusted key projects = true := by
  unfold trusting entryIsTrusted
  cases hprojects : projectsOf entries with
  | error problem => simp [Except.bind]
  | ok projects =>
      simp only [Except.bind, Except.ok.injEq, exists_eq_left']
      cases lookupEntries key projects with
      | none => simp
      | some held =>
          cases held with
          | dict existing => simp
          | _ => simp

theorem trusting_eq_some {edited : List (Text × Doc ν)}
    (h : trusting key entries = .ok (some edited)) : ∃ projects, projectsOf entries = .ok projects ∧
      edited = withProjects (setEntries key (flagged (entryOf key projects)) projects) entries := by
  unfold trusting at h
  cases hprojects : projectsOf entries with
  | error problem =>
      rw [hprojects] at h
      cases h
  | ok projects =>
      rw [hprojects] at h
      simp only [Except.bind] at h
      refine ⟨projects, rfl, ?_⟩
      unfold entryOf
      split at h
      · next existing hexisting =>
          split at h
          · cases h
          · rw [hexisting]
            cases h
            rfl
      · next hnull =>
          rw [hnull]
          cases h
          rfl
      · next hnone =>
          rw [hnone]
          cases h
          rfl
      · cases h

theorem lawful_trusting (key : Text) :
    Lawful (fun entries => trusting key entries) fun entries => withFlag key entries := by
  constructor
  · exact fun f entries => trusting_map f key entries
  · exact fun f entries => withFlag_mapEntries f key entries
  · intro ν entries h
    obtain ⟨projects, hprojects, htrusted⟩ := trusting_eq_none.mp h
    obtain ⟨entry, hentry, hflagged⟩ := entryIsTrusted_eq_true.mp htrusted
    rw [withFlag_eq hprojects, entryOf_eq hentry, flagged_self hflagged, setEntries_self hentry,
      withProjects_self hprojects]
  · intro ν entries edited h
    obtain ⟨projects, hprojects, rfl⟩ := trusting_eq_some h
    refine ⟨withFlag_eq hprojects, trusting_eq_none.mpr ⟨_, projectsOf_withProjects _ _, ?_⟩⟩
    unfold entryIsTrusted
    rw [Dict.lookupEntries_setEntries, if_pos rfl]
    exact isFlagged_flagged _
  · exact fun h => all_withFlag closed_regular rfl rfl rfl h
  · exact fun hbound h => depth_withFlag hbound h

theorem revoking_map (f : ν → μ) (key : Text) (entries : List (Text × Doc ν)) :
    revoking key (mapEntries f entries) =
      (revoking key entries).map (Option.map (mapEntries f)) := by
  unfold revoking
  rw [projectsOf_mapEntries]
  cases projectsOf entries with
  | error problem => rfl
  | ok projects =>
      simp only [Except.map]
      rw [lookupEntries_mapEntries]
      cases lookupEntries key projects with
      | none => rfl
      | some held =>
          simp only [Option.map_some]
          rw [without_mapEntries, withProjects_mapEntries]

/-- Nothing is to be written exactly if the entry is gone. -/
theorem revoking_eq_none : revoking key entries = .ok none ↔ entryIsGone key entries = true := by
  unfold revoking projectsOf entryIsGone
  cases lookupEntries projectsKey entries with
  | none => simp [Except.map]
  | some held =>
      cases held with
      | dict projects =>
          simp only [Except.map, Except.ok.injEq, decide_eq_true_eq]
          cases lookupEntries key projects with
          | none => simp
          | some value => simp
      | _ => simp [Except.map]

theorem revoking_eq_some {edited : List (Text × Doc ν)}
    (h : revoking key entries = .ok (some edited)) : ∃ projects, projectsOf entries = .ok projects ∧
      edited = withProjects (without key projects) entries := by
  unfold revoking at h
  cases hprojects : projectsOf entries with
  | error problem =>
      rw [hprojects] at h
      cases h
  | ok projects =>
      rw [hprojects] at h
      simp only [Except.map, Except.ok.injEq] at h
      split at h
      · cases h
      · cases h
        exact ⟨projects, rfl, rfl⟩

theorem entryIsGone_iff : entryIsGone key entries = true ↔
    ∃ projects, projectsOf entries = .ok projects ∧ lookupEntries key projects = none := by
  unfold entryIsGone projectsOf
  cases lookupEntries projectsKey entries with
  | none => simp
  | some held =>
      cases held with
      | dict projects => simp
      | _ => simp

theorem lawful_revoking (key : Text) :
    Lawful (fun entries => revoking key entries) fun entries => withoutEntry key entries := by
  constructor
  · exact fun f entries => revoking_map f key entries
  · exact fun f entries => withoutEntry_mapEntries f key entries
  · intro ν entries h
    obtain ⟨projects, hprojects, hgone⟩ := entryIsGone_iff.mp (revoking_eq_none.mp h)
    unfold withoutEntry
    rw [hprojects]
    simp only
    rw [without_of_fresh hgone, withProjects_self hprojects]
  · intro ν entries edited h
    obtain ⟨projects, hprojects, rfl⟩ := revoking_eq_some h
    refine ⟨?_, ?_⟩
    · unfold withoutEntry
      rw [hprojects]
    · refine revoking_eq_none.mpr (entryIsGone_iff.mpr ⟨_, projectsOf_withProjects _ _, ?_⟩)
      exact lookupEntries_without key projects
  · exact fun h => all_withoutEntry closed_regular h
  · exact fun _ h => depth_withoutEntry h

/-! ## Writing and reading back -/

/-- The configuration as the JSON value that it denotes. -/
def parsed (host : Host) (file : ConfigFile) : Option (List (Text × Doc Quantity)) :=
  match readEntries host file with
  | .error _ => none
  | .ok entries => some (mapEntries Numeral.quantity entries)

/-- A configuration without surrogates, no deeper than the writer goes. -/
def CanBeWritten (host : Host) (entries : List (Text × Doc Numeral)) : Prop :=
  (Doc.dict entries).depth ≤ host.writeDepth ∧
    (Doc.dict entries).all ⟨isPlain, fun _ => true, fun _ => true⟩ = true

/-- Every number is written as the number it is. -/
def KeepsNumbers (entries : List (Text × Doc Numeral)) : Prop :=
  (Doc.dict entries).all ⟨fun _ => true, fun numeral =>
    decide ((numeral.rewritten Binary64).quantity = numeral.quantity), fun _ => true⟩ = true

variable {host : Host} {numerals edited : List (Text × Doc Numeral)}

theorem mapEntries_mapEntries {ρ : Type} (f : ν → μ) (g : μ → ρ) (entries : List (Text × Doc ν)) :
    mapEntries g (mapEntries f entries) = mapEntries (fun value => g (f value)) entries := by
  have hmap := JsonText.map_map g f (Doc.dict entries)
  rw [Doc.map, Doc.map, Doc.map] at hmap
  exact Doc.dict.inj hmap

/-- The content that edited entries are written as. -/
def written (entries : List (Text × Doc Numeral)) : ConfigFile :=
  .content (Encoding.encodeUtf8 (String.ofList (JsonText.print 0
    (Doc.dict (mapEntries (Numeral.rewritten Binary64) entries)))))

theorem depth_rewritten (entries : List (Text × Doc Numeral)) :
    (Doc.dict (mapEntries (Numeral.rewritten Binary64) entries)).depth = (Doc.dict entries).depth :=
  JsonText.depth_map (Numeral.rewritten Binary64) (Doc.dict entries)

theorem all_rewritten (test : Test Numeral) (entries : List (Text × Doc Numeral)) :
    (Doc.dict (mapEntries (Numeral.rewritten Binary64) entries)).all test = (Doc.dict entries).all
        ⟨test.text, fun numeral => test.number (numeral.rewritten Binary64), test.keys⟩ :=
  JsonText.all_map (Numeral.rewritten Binary64) test (Doc.dict entries)

/-- How the entries that the host holds are written. -/
theorem save_held (entries : List (Text × Doc Numeral)) :
    save host (mapEntries Numeral.held entries) =
      if host.statFails then .error (.refused .configUnreadable)
      else if host.writeDepth < (Doc.dict entries).depth then .error (.raised .recursion)
      else if ¬ (Doc.dict entries).all ⟨isPlain, fun _ => true, fun _ => true⟩ then
        .error (.raised .encoding)
      else if host.writeFails then .error (.refused .writeFailed)
      else .ok (written entries) := by
  have hnumerals : mapEntries Number.numeral (mapEntries (Numeral.held (F := Binary64)) entries) =
      mapEntries (Numeral.rewritten Binary64) entries := mapEntries_mapEntries _ _ _
  unfold save payload
  simp only
  rw [hnumerals, depth_rewritten, all_rewritten]
  unfold Checked.failIf
  cases host.statFails with
  | true => rfl
  | false =>
      by_cases hdepth : host.writeDepth < (Doc.dict entries).depth
      · simp [hdepth, bind, Except.bind]
      · cases (Doc.dict entries).all ⟨isPlain, fun _ => true, fun _ => true⟩ with
        | false => simp [hdepth, bind, Except.bind]
        | true =>
            cases host.writeFails with
            | true => simp [hdepth, bind, Except.bind, pure, Except.pure]
            | false => simp [hdepth, bind, Except.bind, pure, Except.pure, written]

theorem read_of_readEntries {file : ConfigFile} (h : readEntries host file = .ok numerals) :
    (Doc.dict numerals).all regular = true ∧ (Doc.dict numerals).depth ≤ host.readDepth := by
  cases file with
  | missing => cases h
  | unreadable => cases h
  | content bytes =>
      unfold readEntries at h
      simp only at h
      split at h
      · cases h
      · split at h
        · cases h
        · cases h
        · next hread =>
            cases h
            exact JsonText.readDoc_sound hread
        · cases h

theorem readEntries_written (hregular : (Doc.dict numerals).all regular = true)
    (hdepth : (Doc.dict numerals).depth ≤ host.readDepth) (h : CanBeWritten host numerals) :
    readEntries host (written numerals) =
      .ok (mapEntries (Numeral.rewritten Binary64) numerals) := by
  have hprintable : (Doc.dict (mapEntries (Numeral.rewritten Binary64) numerals)).all printable =
      true := by
    rw [all_rewritten]
    apply JsonText.all_both _ _ _ hregular h.2
    · exact fun _ _ hplain => hplain
    · intro numeral hvalid _
      exact decide_eq_true (JsonText.valid_rewritten (of_decide_eq_true hvalid))
    · exact fun _ hkeys _ => hkeys
  unfold readEntries written
  simp only
  rw [Encoding.decodeUtf8_encodeUtf8]
  simp only
  rw [String.toList_ofList,
    JsonText.readDoc_print hprintable ((depth_rewritten numerals).trans_le hdepth)]

/-- What an edit does, by the configuration as it is written. -/
inductive Outcome (host : Host) (file : ConfigFile)
    (change : List (Text × Doc Numeral) → Except Problem (Option (List (Text × Doc Numeral)))) :
    Left → Prop where
  | unread (stop : Stop) (hread : readEntries host file = .error stop) :
      Outcome host file change ⟨.error stop, file⟩
  | refused (entries : List (Text × Doc Numeral)) (problem : Problem)
      (hread : readEntries host file = .ok entries) (hchange : change entries = .error problem) :
      Outcome host file change ⟨.error (.refused problem), file⟩
  | kept (entries : List (Text × Doc Numeral)) (hread : readEntries host file = .ok entries)
      (hchange : change entries = .ok none) : Outcome host file change ⟨.ok (), file⟩
  | unstated (entries edited : List (Text × Doc Numeral))
      (hread : readEntries host file = .ok entries) (hchange : change entries = .ok (some edited))
      (hstat : host.statFails = true) :
      Outcome host file change ⟨.error (.refused .configUnreadable), file⟩
  | unwritable (entries edited : List (Text × Doc Numeral)) (exception : Raised)
      (hread : readEntries host file = .ok entries) (hchange : change entries = .ok (some edited))
      (hstat : host.statFails = false) (hwritten : ¬ CanBeWritten host edited) :
      Outcome host file change ⟨.error (.raised exception), file⟩
  | unwritten (entries edited : List (Text × Doc Numeral))
      (hread : readEntries host file = .ok entries) (hchange : change entries = .ok (some edited))
      (hstat : host.statFails = false) (hwritten : CanBeWritten host edited)
      (hwrite : host.writeFails = true) :
      Outcome host file change ⟨.error (.refused .writeFailed), file⟩
  | saved (entries edited : List (Text × Doc Numeral))
      (hread : readEntries host file = .ok entries) (hchange : change entries = .ok (some edited))
      (hstat : host.statFails = false) (hwritten : CanBeWritten host edited)
      (hwrite : host.writeFails = false) : Outcome host file change ⟨.ok (), written edited⟩

section

variable {change : {ν : Type} → List (Text × Doc ν) → Except Problem (Option (List (Text × Doc ν)))}
  {intended : {ν : Type} → List (Text × Doc ν) → List (Text × Doc ν)}
  {check : ConfigFile → Except Stop Unit} {file : ConfigFile}

theorem readEntries_edited (hlawful : Lawful change intended)
    (hread : readEntries host file = .ok numerals) (hchange : change numerals = .ok (some edited))
    (hwritten : CanBeWritten host edited) : readEntries host (written edited) =
      .ok (mapEntries (Numeral.rewritten Binary64) edited) := by
  obtain ⟨hregular, hdepth⟩ := read_of_readEntries hread
  obtain ⟨hintended, -⟩ := hlawful.changed hchange
  apply readEntries_written
  · exact hintended ▸ hlawful.all_regular hregular
  · exact hintended ▸ hlawful.depth host.readDepth_ge hdepth
  · exact hwritten

/-- What is written asks for no further change. -/
theorem change_written (hlawful : Lawful change intended)
    (hchange : change numerals = .ok (some edited)) (f : Numeral → ν) :
    change (mapEntries f edited) = .ok none := by
  rw [hlawful.change_map, (hlawful.changed hchange).2]
  rfl

/-- An edit ends in one of the outcomes, where its check accepts what needs no change. -/
theorem edit_outcome (hlawful : Lawful change intended)
    (hcheck : ∀ saved document, readDocument host saved = .ok document →
      change document = .ok none → check saved = .ok ()) (file : ConfigFile) :
    Outcome host file change (edit host change check file) := by
  unfold edit readDocument
  cases hread : readEntries host file with
  | error stop => exact .unread stop hread
  | ok numerals =>
      simp only [Except.map]
      rw [hlawful.change_map]
      cases hchange : change numerals with
      | error problem => exact .refused numerals problem hread hchange
      | ok changed =>
          cases changed with
          | none => exact .kept numerals hread hchange
          | some edited =>
              simp only [Except.map, Option.map_some]
              rw [save_held]
              cases hstat : host.statFails with
              | true => exact .unstated numerals edited hread hchange hstat
              | false =>
                  by_cases hwritten : CanBeWritten host edited
                  · rw [if_neg Bool.false_ne_true, if_neg (Nat.not_lt_of_le hwritten.1),
                      if_neg (not_not.mpr hwritten.2)]
                    cases hwrite : host.writeFails with
                    | true => exact .unwritten numerals edited hread hchange hstat hwritten hwrite
                    | false =>
                        have hfresh : readDocument host (written edited) = .ok (mapEntries
                            (Numeral.held (F := Binary64))
                            (mapEntries (Numeral.rewritten Binary64) edited)) :=
                          congrArg (Except.map (mapEntries (Numeral.held (F := Binary64))))
                            (readEntries_edited hlawful hread hchange hwritten)
                        rw [if_neg Bool.false_ne_true]
                        simp only
                        rw [hcheck _ _ hfresh (by
                          rw [mapEntries_mapEntries]
                          exact change_written hlawful hchange _)]
                        exact .saved numerals edited hread hchange hstat hwritten hwrite
                  · by_cases hdepth : host.writeDepth < (Doc.dict edited).depth
                    · rw [if_neg Bool.false_ne_true, if_pos hdepth]
                      exact .unwritable numerals edited _ hread hchange hstat hwritten
                    · rw [if_neg Bool.false_ne_true, if_neg hdepth,
                        if_pos fun hplain => hwritten ⟨Nat.le_of_not_lt hdepth, hplain⟩]
                      exact .unwritable numerals edited _ hread hchange hstat hwritten

end

end DodgingInfinity.WorkspaceTrust
