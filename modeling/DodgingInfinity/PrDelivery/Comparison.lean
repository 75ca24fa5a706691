import DodgingInfinity.Library.Encoding
import DodgingInfinity.Library.Sorting
import DodgingInfinity.PrDelivery.Record
import Mathlib.Data.List.Dedup

/-!
# Comparing candidates

A comparison finds no difference exactly when both candidates have the same
entry at every path; lists in the order of their paths' bytes are then equal.
-/

namespace DodgingInfinity.PrDelivery

open Encoding Sorting

variable {entries : List CandidateEntry} {path : String} {entry : CandidateEntry}

theorem entryAt_path (h : entryAt entries path = some entry) :
    entry.path = path := by
  simpa using List.find?_some h

theorem entryAt_eq_none
    (h : path ∉ entries.map CandidateEntry.path) : entryAt entries path = none := by
  refine List.find?_eq_none.mpr fun entry hentry hpath => h ?_
  exact List.mem_map.mpr ⟨entry, List.mem_reverse.mp hentry, of_decide_eq_true hpath⟩

variable {bound live : List CandidateEntry}

theorem entryAt_eq_of_differenceAt (h : differenceAt bound live path = none) :
    entryAt live path = entryAt bound path := by
  unfold differenceAt at h
  split at h
  · cases h
  · cases h
  · rename_i actual expected hactual hexpected
    have hpath := (entryAt_path hactual).trans (entryAt_path hexpected).symm
    rw [hactual, hexpected]
    obtain ⟨actualPath, actualStatus, actualMode, actualBlob⟩ := actual
    obtain ⟨expectedPath, expectedStatus, expectedMode, expectedBlob⟩ := expected
    split at h
    · cases h
    · split at h
      · cases h
      · split at h
        · cases h
        · simp_all

/-- Candidates that do not differ have the same entry at every path. -/
theorem entryAt_eq_of_compare (h : compare bound live = none) (path : String) :
    entryAt live path = entryAt bound path := by
  by_cases hpath : path ∈ (bound ++ live).map CandidateEntry.path
  · refine entryAt_eq_of_differenceAt (List.findSome?_eq_none_iff.mp h path ?_)
    simpa using hpath
  · rw [List.map_append, List.mem_append, not_or] at hpath
    rw [entryAt_eq_none hpath.1, entryAt_eq_none hpath.2]

theorem entryAt_mem (h : entryAt entries path = some entry) : entry ∈ entries :=
  List.mem_reverse.mp (List.mem_of_find?_eq_some h)

/-- A named path has an entry. -/
theorem entryAt_ne_none
    (h : path ∈ entries.map CandidateEntry.path) : entryAt entries path ≠ none := by
  obtain ⟨entry, hentry, rfl⟩ := List.mem_map.mp h
  intro hnone
  have hall := List.find?_eq_none.mp hnone entry (List.mem_reverse.mpr hentry)
  exact hall (decide_eq_true rfl)

theorem differenceAt_eq_none (h : entryAt live path = entryAt bound path)
    (hnamed : entryAt live path ≠ none) : differenceAt bound live path = none := by
  unfold differenceAt
  rw [← h]
  cases hlive : entryAt live path with
  | none => exact absurd hlive hnamed
  | some entry => simp

/-- Candidates do not differ exactly when they have the same entry at every
path. -/
theorem compare_eq_none_iff :
    compare bound live = none ↔ ∀ path, entryAt live path = entryAt bound path := by
  constructor
  · exact entryAt_eq_of_compare
  · intro h
    refine List.findSome?_eq_none_iff.mpr fun path hpath => ?_
    refine differenceAt_eq_none (h path) ?_
    have hnamed : path ∈ bound.map CandidateEntry.path ∨
        path ∈ live.map CandidateEntry.path := by
      simpa only [mem_sortedBy, List.mem_dedup, List.map_append, List.mem_append] using hpath
    rcases hnamed with hbound | hlive
    · rw [h path]
      exact entryAt_ne_none hbound
    · exact entryAt_ne_none hlive

/-- The place of an entry: the UTF-8 bytes of its path. -/
def pathOrder (entry : CandidateEntry) : List Nat :=
  (encodeUtf8 entry.path).map UInt8.toNat

theorem pathOrder_eq_iff {other : CandidateEntry} :
    pathOrder entry = pathOrder other ↔ entry.path = other.path := by
  unfold pathOrder
  rw [(List.map_injective_iff.mpr fun _ _ => UInt8.toNat_inj.mp).eq_iff,
    encodeUtf8_injective.eq_iff]

/-- Entries are in the order of their places exactly when no path comes twice. -/
theorem nodup_pathOrder :
    (entries.map pathOrder).Nodup ↔ (entries.map CandidateEntry.path).Nodup := by
  unfold List.Nodup
  rw [List.pairwise_map, List.pairwise_map]
  simp only [ne_eq, pathOrder_eq_iff]

theorem eq_of_path {other : CandidateEntry}
    (h : (entries.map CandidateEntry.path).Nodup) (hentry : entry ∈ entries)
    (hother : other ∈ entries) (hpath : entry.path = other.path) : entry = other :=
  List.inj_on_of_nodup_map h hentry hother hpath

/-- The entry at a path, where no path comes twice. -/
theorem entryAt_eq_some_iff (h : (entries.map CandidateEntry.path).Nodup) :
    entryAt entries path = some entry ↔ entry ∈ entries ∧ entry.path = path := by
  constructor
  · intro hat
    exact ⟨entryAt_mem hat, entryAt_path hat⟩
  · rintro ⟨hentry, rfl⟩
    cases hat : entryAt entries entry.path with
    | none => exact absurd hat (entryAt_ne_none (List.mem_map_of_mem hentry))
    | some other =>
        rw [eq_of_path h (entryAt_mem hat) hentry (entryAt_path hat)]

/-- Two lists in the order of their paths differ nowhere only when they are
equal. -/
theorem compare_eq_none_iff_eq
    (hbound : Ascending pathOrder bound) (hlive : Ascending pathOrder live) :
    compare bound live = none ↔ bound = live := by
  rw [compare_eq_none_iff]
  constructor
  · intro h
    have hboundPaths := nodup_pathOrder.mp hbound.nodup
    have hlivePaths := nodup_pathOrder.mp hlive.nodup
    apply hbound.eq_of_perm hlive
    rw [List.perm_ext_iff_of_nodup hboundPaths.of_map hlivePaths.of_map]
    intro entry
    have hmem : ∀ {entries : List CandidateEntry}, (entries.map CandidateEntry.path).Nodup →
        (entry ∈ entries ↔ entryAt entries entry.path = some entry) := by
      intro entries hpaths
      rw [entryAt_eq_some_iff hpaths]
      simp
    rw [hmem hboundPaths, hmem hlivePaths, h entry.path]
  · rintro rfl path
    rfl

end DodgingInfinity.PrDelivery
