import Mathlib.Data.List.Sort

/-!
# Lists sorted by a key

A stable sort by a key, and the lists whose keys strictly ascend: such a list is
the sorted form of each of its reorderings.
-/

namespace DodgingInfinity

namespace Sorting

variable {α κ : Type*} [LinearOrder κ] {key : α → κ} {items others : List α}

/-- A stable sort, ascending by a key. -/
def sortedOn (key : α → κ) (items : List α) : List α :=
  items.insertionSort fun first second => key first ≤ key second

/-- The keys strictly ascend. -/
def Ascending (key : α → κ) (items : List α) : Prop :=
  items.Pairwise fun first second => key first < key second

theorem sortedOn_perm (key : α → κ) (items : List α) : (sortedOn key items).Perm items :=
  List.perm_insertionSort _ items

theorem pairwise_sortedOn (key : α → κ) (items : List α) :
    (sortedOn key items).Pairwise fun first second => key first ≤ key second := by
  have : Std.Total fun first second : α => key first ≤ key second :=
    ⟨fun first second => le_total (key first) (key second)⟩
  have : IsTrans α fun first second => key first ≤ key second := ⟨fun _ _ _ => le_trans⟩
  exact List.pairwise_insertionSort _ items

/-- Distinct keys that ascend, strictly ascend. -/
theorem ascending_of_nodup (h : items.Pairwise fun first second => key first ≤ key second)
    (hdistinct : (items.map key).Nodup) : Ascending key items := by
  have hne : items.Pairwise fun first second => key first ≠ key second :=
    List.pairwise_map.mp hdistinct
  exact (h.and hne).imp fun hboth => lt_of_le_of_ne hboth.1 hboth.2

theorem Ascending.nodup (h : Ascending key items) : (items.map key).Nodup :=
  List.pairwise_map.mpr (h.imp fun hlt => ne_of_lt hlt)

/-- Sorting distinct keys makes them strictly ascend. -/
theorem ascending_sortedOn (hdistinct : (items.map key).Nodup) :
    Ascending key (sortedOn key items) :=
  ascending_of_nodup (pairwise_sortedOn key items)
    (((sortedOn_perm key items).map key).nodup_iff.mpr hdistinct)

/-- Two strictly ascending orders of the same items are one. -/
theorem Ascending.eq_of_perm (h : Ascending key items) (hother : Ascending key others)
    (hperm : items.Perm others) : items = others := by
  apply hperm.eq_of_pairwise _ h hother
  intro first second _ _ hlt hgt
  exact absurd hlt (lt_asymm hgt)

/-- Every order of items with distinct keys is sorted into the same list. -/
theorem sortedOn_eq_of_perm (hperm : items.Perm others) (hdistinct : (items.map key).Nodup) :
    sortedOn key items = sortedOn key others := by
  apply (ascending_sortedOn hdistinct).eq_of_perm
  · exact ascending_sortedOn ((hperm.map key).nodup_iff.mp hdistinct)
  · exact (sortedOn_perm key items).trans (hperm.trans (sortedOn_perm key others).symm)

/-- Keys that ascend, and differ from each to the next, strictly ascend. -/
theorem ascending_of_adjacent (h : items.Pairwise fun first second => key first ≤ key second)
    (hadjacent : items.IsChain fun first second => key first ≠ key second) :
    Ascending key items := by
  induction items with
  | nil => exact List.Pairwise.nil
  | cons first rest ih =>
      cases rest with
      | nil => exact List.pairwise_singleton _ first
      | cons second others =>
          obtain ⟨hfirst, hrest⟩ := List.pairwise_cons.mp h
          obtain ⟨hne, hmore⟩ := List.isChain_cons_cons.mp hadjacent
          have hascending := ih hrest hmore
          have hstep : key first < key second :=
            lt_of_le_of_ne (hfirst second List.mem_cons_self) hne
          refine List.pairwise_cons.mpr ⟨?_, hascending⟩
          intro item hmem
          rcases List.mem_cons.mp hmem with rfl | hother
          · exact hstep
          · exact hstep.trans ((List.pairwise_cons.mp hascending).1 item hother)

end Sorting

end DodgingInfinity
