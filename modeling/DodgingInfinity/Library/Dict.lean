import Mathlib.Data.List.Nodup
import Mathlib.Data.List.Pairwise

/-!
# Insertion-ordered maps

A decoded JSON object is a map whose entries keep the order in which their
keys were first inserted.  Overwriting a key keeps its place.  The entries of
a `Dict` carry the proof that no key occurs twice, so that a lookup and a walk
over the entries always speak about the same values.
-/

namespace DodgingInfinity

universe u v

/-- A finite map with its entries in insertion order. -/
structure Dict (κ : Type u) (α : Type v) where
  entries : List (κ × α)
  nodup : (entries.map Prod.fst).Nodup

namespace Dict

variable {κ : Type u} {α : Type v} [DecidableEq κ]

instance [DecidableEq α] : DecidableEq (Dict κ α) := fun first second =>
  decidable_of_iff (first.entries = second.entries) <| by
    cases first
    cases second
    simp

/-- The value of the first entry carrying `key`. -/
def lookupEntries (key : κ) : List (κ × α) → Option α
  | [] => none
  | (name, value) :: rest =>
      if name = key then some value else lookupEntries key rest

/-- Overwrite the entry carrying `key`, or append a new one. -/
def setEntries (key : κ) (value : α) : List (κ × α) → List (κ × α)
  | [] => [(key, value)]
  | (name, old) :: rest =>
      if name = key then (key, value) :: rest
      else (name, old) :: setEntries key value rest

theorem lookupEntries_eq_none_iff (key : κ) (entries : List (κ × α)) :
    lookupEntries key entries = none ↔ key ∉ entries.map Prod.fst := by
  induction entries with
  | nil => simp [lookupEntries]
  | cons entry rest ih =>
      obtain ⟨name, value⟩ := entry
      by_cases h : name = key
      · simp [lookupEntries, h]
      · simp [lookupEntries, h, ih, Ne.symm h]

variable {key : κ} {value : α}

variable {entries : List (κ × α)}

theorem mem_of_lookupEntries
    (h : lookupEntries key entries = some value) : (key, value) ∈ entries := by
  induction entries with
  | nil => simp [lookupEntries] at h
  | cons entry rest ih =>
      obtain ⟨name, old⟩ := entry
      by_cases hname : name = key
      · simp only [lookupEntries, hname, if_true, Option.some.injEq] at h
        simp [hname, h]
      · simp only [lookupEntries, hname, if_false] at h
        exact List.mem_cons_of_mem _ (ih h)

theorem lookupEntries_of_mem (hnodup : (entries.map Prod.fst).Nodup) (h : (key, value) ∈ entries) :
    lookupEntries key entries = some value := by
  induction entries with
  | nil => simp at h
  | cons entry rest ih =>
      obtain ⟨name, old⟩ := entry
      simp only [List.map_cons, List.nodup_cons] at hnodup
      rcases List.mem_cons.mp h with heq | hrest
      · obtain ⟨rfl, rfl⟩ := Prod.mk.inj heq
        simp [lookupEntries]
      · have hne : name ≠ key := by
          rintro rfl
          exact hnodup.1 (List.mem_map.mpr ⟨(name, value), hrest, rfl⟩)
        simp only [lookupEntries, hne, if_false]
        exact ih hnodup.2 hrest

theorem lookupEntries_setEntries (key other : κ) (value : α) (entries : List (κ × α)) :
    lookupEntries other (setEntries key value entries) =
      if other = key then some value else lookupEntries other entries := by
  induction entries with
  | nil => simp [setEntries, lookupEntries, eq_comm]
  | cons entry rest ih =>
      obtain ⟨name, old⟩ := entry
      by_cases hname : name = key
      · subst hname
        by_cases h : other = name
        · simp [setEntries, lookupEntries, h]
        · simp [setEntries, lookupEntries, h, Ne.symm h]
      · simp only [setEntries, hname, if_false, lookupEntries, ih]
        by_cases hother : name = other
        · subst hother
          simp [hname]
        · simp [hother]

theorem keys_setEntries (key : κ) (value : α) (entries : List (κ × α)) :
    (setEntries key value entries).map Prod.fst =
      if key ∈ entries.map Prod.fst then entries.map Prod.fst
      else entries.map Prod.fst ++ [key] := by
  induction entries with
  | nil => simp [setEntries]
  | cons entry rest ih =>
      obtain ⟨name, old⟩ := entry
      by_cases hname : name = key
      · simp [setEntries, hname]
      · simp only [setEntries, hname, if_false, List.map_cons, ih,
          List.mem_cons, Ne.symm hname, false_or]
        split <;> simp

/-- The map with no entry. -/
def empty : Dict κ α := ⟨[], List.nodup_nil⟩

/-- The value stored under `key`, if any. -/
def get? (dict : Dict κ α) (key : κ) : Option α :=
  lookupEntries key dict.entries

/-- Store `value` under `key`, in place when the key is already held. -/
def set (dict : Dict κ α) (key : κ) (value : α) : Dict κ α where
  entries := setEntries key value dict.entries
  nodup := by
    rw [keys_setEntries]
    split
    · exact dict.nodup
    · rename_i hfresh
      exact List.nodup_append.mpr ⟨dict.nodup, by simp, by
        intro held hheld new hnew
        rw [List.mem_singleton.mp hnew]
        rintro rfl
        exact hfresh hheld⟩

/-- Whether the map holds `key`. -/
def contains (dict : Dict κ α) (key : κ) : Bool := (dict.get? key).isSome

/-- The keys, in insertion order. -/
def keys (dict : Dict κ α) : List κ := dict.entries.map Prod.fst

/-- The values, in insertion order. -/
def values (dict : Dict κ α) : List α := dict.entries.map Prod.snd

@[simp] theorem get?_empty (key : κ) : (empty : Dict κ α).get? key = none := rfl

omit [DecidableEq κ] in
@[simp] theorem entries_empty : (empty : Dict κ α).entries = [] := rfl

theorem get?_set (dict : Dict κ α) (key other : κ) (value : α) : (dict.set key value).get? other =
      if other = key then some value else dict.get? other :=
  lookupEntries_setEntries key other value dict.entries

@[simp] theorem get?_set_self (dict : Dict κ α) (key : κ) (value : α) :
    (dict.set key value).get? key = some value := by
  simp [get?_set]

theorem get?_set_of_ne (dict : Dict κ α) {other : κ} (value : α)
    (h : other ≠ key) : (dict.set key value).get? other = dict.get? other := by
  simp [get?_set, h]

theorem mem_entries_iff (dict : Dict κ α) (key : κ) (value : α) :
    (key, value) ∈ dict.entries ↔ dict.get? key = some value :=
  ⟨lookupEntries_of_mem dict.nodup, mem_of_lookupEntries⟩

theorem mem_values_iff (dict : Dict κ α) (value : α) :
    value ∈ dict.values ↔ ∃ key, dict.get? key = some value := by
  simp only [values, List.mem_map, Prod.exists, exists_eq_right, mem_entries_iff]

variable {β : Type*}

/-- No value of a list occurs twice over all entries, when none occurs twice in
one entry and no two entries share one. -/
theorem nodup_flatMap_values (dict : Dict κ α) (f : α → List β) : (dict.values.flatMap f).Nodup ↔
      (∀ key value, dict.get? key = some value → (f value).Nodup) ∧
      ∀ key other value held item, dict.get? key = some value →
        dict.get? other = some held → item ∈ f value → item ∈ f held →
          key = other := by
  have hkeys : dict.entries.Pairwise fun first second =>
      first.1 ≠ second.1 := List.pairwise_map.mp dict.nodup
  rw [List.nodup_flatMap, values, List.pairwise_map]
  refine and_congr ?_ ⟨fun h => ?_, fun h => ?_⟩
  · simp only [List.mem_map, Prod.exists, exists_eq_right, forall_exists_index, mem_entries_iff]
    exact ⟨fun h key value => h value key, fun h value key => h key value⟩
  · intro key other value held item hvalue hheld hitem hshared
    by_contra hne
    have hfirst := (mem_entries_iff dict key value).mpr hvalue
    have hsecond := (mem_entries_iff dict other held).mpr hheld
    have hsymm : Std.Symm fun first second : κ × α =>
        Function.onFun List.Disjoint f first.2 second.2 :=
      ⟨fun _ _ hpair _ hsecond hfirst => hpair hfirst hsecond⟩
    exact h.forall hfirst hsecond (fun heq => hne (Prod.mk.inj heq).1) hitem hshared
  · refine hkeys.imp_of_mem fun {first second} hfirst hsecond hne => ?_
    intro item hitem hshared
    exact hne (h first.1 second.1 first.2 second.2 item ((mem_entries_iff dict _ _).mp hfirst)
      ((mem_entries_iff dict _ _).mp hsecond) hitem hshared)

variable {dict : Dict κ α}

/-- Storing a value keeps the values of a list apart, when the new ones are
distinct and no other entry has one. -/
theorem nodup_flatMap_set {f : α → List β} (h : (dict.values.flatMap f).Nodup)
    (hown : (f value).Nodup)
    (hfresh : ∀ other held item, other ≠ key → dict.get? other = some held →
      item ∈ f value → item ∉ f held) :
    ((dict.set key value).values.flatMap f).Nodup := by
  rw [nodup_flatMap_values] at h ⊢
  refine ⟨fun other held hheld => ?_, fun first second one two item hone htwo hfirst hsecond => ?_⟩
  · rw [get?_set] at hheld
    split at hheld
    · obtain rfl := Option.some.inj hheld
      exact hown
    · exact h.1 other held hheld
  · rw [get?_set] at hone htwo
    split at hone
    · obtain rfl := Option.some.inj hone
      split at htwo
      · simp [*]
      · rename_i hne
        exact absurd hsecond (hfresh second two item hne htwo hfirst)
    · rename_i hne
      split at htwo
      · obtain rfl := Option.some.inj htwo
        exact absurd hfirst (hfresh first one item hne hone hsecond)
      · exact h.2 first second one two item hone htwo hfirst hsecond

theorem mem_flatMap_values (dict : Dict κ α) (f : α → List β)
    (item : β) : item ∈ dict.values.flatMap f ↔
      ∃ key value, dict.get? key = some value ∧ item ∈ f value := by
  simp only [List.mem_flatMap, mem_values_iff]
  constructor
  · rintro ⟨value, ⟨key, hheld⟩, hitem⟩
    exact ⟨key, value, hheld, hitem⟩
  · rintro ⟨key, value, hheld, hitem⟩
    exact ⟨value, ⟨key, hheld⟩, hitem⟩

theorem mem_keys_iff (dict : Dict κ α) (key : κ) :
    key ∈ dict.keys ↔ dict.contains key = true := by
  have h := lookupEntries_eq_none_iff key dict.entries
  unfold contains get? keys
  cases hlookup : lookupEntries key dict.entries with
  | none => simp [h.mp hlookup]
  | some value =>
      have hmem : key ∈ dict.entries.map Prod.fst := by
        by_contra hnot
        rw [h.mpr hnot] at hlookup
        cases hlookup
      simp [hmem]

@[simp] theorem contains_eq_false_iff (dict : Dict κ α) (key : κ) :
    dict.contains key = false ↔ dict.get? key = none := by
  simp [contains]

theorem contains_eq_true_iff (dict : Dict κ α) (key : κ) :
    dict.contains key = true ↔ ∃ value, dict.get? key = some value := by
  simp [contains, Option.isSome_iff_exists]

theorem setEntries_of_fresh (h : key ∉ entries.map Prod.fst) :
    setEntries key value entries = entries ++ [(key, value)] := by
  induction entries with
  | nil => rfl
  | cons entry rest ih =>
      obtain ⟨name, old⟩ := entry
      simp only [List.map_cons, List.mem_cons, not_or] at h
      simp [setEntries, Ne.symm h.1, ih h.2]

/-- A key that is not held yet goes to the end of the entries. -/
theorem entries_set_of_fresh (value : α) (h : dict.get? key = none) :
    (dict.set key value).entries = dict.entries ++ [(key, value)] :=
  setEntries_of_fresh ((lookupEntries_eq_none_iff key dict.entries).mp h)

variable {old : α}

theorem setEntries_of_held (h : lookupEntries key entries = some old) :
    ∃ before after, entries = before ++ (key, old) :: after ∧ key ∉ before.map Prod.fst ∧
      ∀ value, setEntries key value entries = before ++ (key, value) :: after := by
  induction entries with
  | nil => simp [lookupEntries] at h
  | cons entry rest ih =>
      obtain ⟨name, held⟩ := entry
      by_cases hname : name = key
      · subst hname
        simp only [lookupEntries, if_true, Option.some.injEq] at h
        subst h
        exact ⟨[], rest, rfl, by simp, fun value => by simp [setEntries]⟩
      · simp only [lookupEntries, hname, if_false] at h
        obtain ⟨before, after, hsplit, hfresh, hset⟩ := ih h
        refine ⟨(name, held) :: before, after, by simp [hsplit], ?_, ?_⟩
        · simp [Ne.symm hname] at hfresh ⊢
          exact hfresh
        · intro value
          simp [setEntries, hname, hset]

/-- Overwriting a held key changes exactly that entry, in its place. -/
theorem entries_set_of_held
    (h : dict.get? key = some old) : ∃ before after, dict.entries = before ++ (key, old) :: after ∧
      ∀ value, (dict.set key value).entries = before ++ (key, value) :: after := by
  obtain ⟨before, after, hsplit, -, hset⟩ := setEntries_of_held h
  exact ⟨before, after, hsplit, hset⟩

/-- Storing the value already held changes nothing. -/
theorem set_eq_self
    (h : dict.get? key = some value) : dict.set key value = dict := by
  obtain ⟨before, after, hsplit, hset⟩ := entries_set_of_held h
  cases dict with
  | mk entries nodup =>
      simp only [set, mk.injEq]
      exact (hset value).trans hsplit.symm

/-- Remove the entry stored under `key`. -/
def erase (dict : Dict κ α) (key : κ) : Dict κ α where
  entries := dict.entries.filter fun entry => entry.1 ≠ key
  nodup := dict.nodup.sublist (List.filter_sublist.map _)

theorem mem_entries_erase (dict : Dict κ α) (key : κ) (entry : κ × α) :
    entry ∈ (dict.erase key).entries ↔ entry ∈ dict.entries ∧ entry.1 ≠ key := by
  simp [erase]

theorem get?_erase (dict : Dict κ α) (key other : κ) :
    (dict.erase key).get? other = if other = key then none else dict.get? other := by
  apply Option.ext
  intro value
  rw [← mem_entries_iff, mem_entries_erase, mem_entries_iff]
  by_cases h : other = key <;> simp [h]

theorem length_entries_erase (dict : Dict κ α) (key : κ) :
    (dict.erase key).entries.length ≤ dict.entries.length :=
  List.length_filter_le _ _

/-- Removing several keys, one after another. -/
theorem get?_foldl_erase (keys : List κ) (dict : Dict κ α) (other : κ) :
    (keys.foldl erase dict).get? other =
      if other ∈ keys then none else dict.get? other := by
  induction keys generalizing dict with
  | nil => simp
  | cons key rest ih =>
      rw [List.foldl_cons, ih, get?_erase]
      by_cases hrest : other ∈ rest <;> by_cases hkey : other = key <;> simp [hrest, hkey]

theorem length_entries_foldl_erase (keys : List κ) (dict : Dict κ α) :
    (keys.foldl erase dict).entries.length ≤ dict.entries.length := by
  induction keys generalizing dict with
  | nil => exact Nat.le_refl _
  | cons key rest ih => exact Nat.le_trans (ih _) (length_entries_erase dict key)

/-- Storing a value adds one entry at most. -/
theorem length_entries_set (dict : Dict κ α) (key : κ) (value : α) :
    (dict.set key value).entries.length ≤ dict.entries.length + 1 := by
  cases hheld : dict.get? key with
  | none => simp [entries_set_of_fresh value hheld]
  | some old =>
      obtain ⟨before, after, hsplit, hset⟩ := entries_set_of_held hheld
      simp [hsplit, hset value]

/-- Overwriting a held key adds none. -/
theorem length_entries_set_of_held (h : dict.get? key = some old) (value : α) :
    (dict.set key value).entries.length = dict.entries.length := by
  obtain ⟨before, after, hsplit, hset⟩ := entries_set_of_held h
  simp [hsplit, hset value]

/-- Change every value, each with its key in view. -/
def mapValues (f : κ → α → α) (dict : Dict κ α) : Dict κ α where
  entries := dict.entries.map fun entry => (entry.1, f entry.1 entry.2)
  nodup := by simpa [Function.comp_def] using dict.nodup

theorem lookupEntries_map (f : κ → α → α) (key : κ) (entries : List (κ × α)) :
    lookupEntries key (entries.map fun entry => (entry.1, f entry.1 entry.2)) =
      (lookupEntries key entries).map (f key) := by
  induction entries with
  | nil => rfl
  | cons entry rest ih =>
      obtain ⟨name, value⟩ := entry
      by_cases hname : name = key
      · simp [lookupEntries, hname]
      · simp [lookupEntries, hname, ih]

@[simp] theorem get?_mapValues (f : κ → α → α) (dict : Dict κ α) (key : κ) :
    (dict.mapValues f).get? key = (dict.get? key).map (f key) :=
  lookupEntries_map f key dict.entries

/-- The map a list of entries builds, a later entry overwriting an earlier. -/
def ofEntries (entries : List (κ × α)) : Dict κ α :=
  entries.foldl (fun dict entry => dict.set entry.1 entry.2) empty

theorem foldl_set_entries (hnodup : (entries.map Prod.fst).Nodup)
    (hfresh : ∀ entry ∈ entries, dict.get? entry.1 = none) :
    (entries.foldl (fun held entry => held.set entry.1 entry.2) dict).entries =
      dict.entries ++ entries := by
  induction entries generalizing dict with
  | nil => simp
  | cons entry rest ih =>
      simp only [List.map_cons, List.nodup_cons] at hnodup
      have hset := entries_set_of_fresh entry.2 (hfresh entry (by simp))
      rw [List.foldl_cons, ih hnodup.2, hset]
      · simp
      · intro other hother
        have hne : other.1 ≠ entry.1 := fun heq =>
          hnodup.1 (heq ▸ List.mem_map_of_mem hother)
        rw [get?_set_of_ne _ _ hne]
        exact hfresh other (List.mem_cons_of_mem _ hother)

/-- Distinct keys build exactly their entries. -/
theorem entries_ofEntries (hnodup : (entries.map Prod.fst).Nodup) :
    (ofEntries entries).entries = entries := by
  have h := foldl_set_entries hnodup fun entry _ => get?_empty (α := α) entry.1
  rw [entries_empty, List.nil_append] at h
  exact h

end Dict

end DodgingInfinity
