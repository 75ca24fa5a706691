import DodgingInfinity.Library.Checked
import DodgingInfinity.Library.Dict
import Mathlib.Data.List.Nodup

/-!
# Walks that refuse a repetition

A validator walks the records of a family with the list of keys it has met, and
refuses a record whose key is among them.  Records that do not count are passed
over.  Such a walk succeeds when every record passes its own check and no two
counting records share a key.
-/

namespace DodgingInfinity.Checked

universe u

variable {ε : Type u} {α κ : Type}

/-- What one step of a walk does: check the item, refuse a held key, and hold
the key of an item that counts. -/
def Distinguishes (step : List κ → α → Except ε (List κ)) (check : α → Prop)
    (counts : α → Bool) (who : α → κ) : Prop :=
  ∀ held item next, step held item = .ok next ↔
    check item ∧ (counts item = true → who item ∉ held) ∧
      next = if counts item then held ++ [who item] else held

variable {step : List κ → α → Except ε (List κ)} {check : α → Prop}
  {counts : α → Bool} {who : α → κ}

theorem foldDistinct_eq_ok (hstep : Distinguishes step check counts who)
    {held result : List κ} {items : List α} : foldChecked step held items = .ok result ↔
      (∀ item ∈ items, check item) ∧ (∀ item ∈ items.filter counts, who item ∉ held) ∧
        ((items.filter counts).map who).Nodup ∧
        result = held ++ (items.filter counts).map who := by
  induction items generalizing held with
  | nil => simp [eq_comm]
  | cons item rest ih =>
      rw [foldChecked_cons_eq_ok]
      simp only [hstep held item, ih]
      by_cases hcounts : counts item = true
      · simp only [hcounts, if_true, true_implies, List.mem_cons, forall_eq_or_imp,
          List.filter_cons_of_pos, List.map_cons, List.nodup_cons]
        constructor
        · rintro ⟨next, ⟨hcheck, hnew, rfl⟩, hrest, hapart, hnodup, rfl⟩
          refine ⟨⟨hcheck, hrest⟩, ⟨hnew, fun other hother =>
            fun hmem => hapart other hother (List.mem_append_left _ hmem)⟩,
            ⟨?_, hnodup⟩, by simp⟩
          rintro hmem
          obtain ⟨other, hother, heq⟩ := List.mem_map.mp hmem
          exact hapart other hother (by simp [heq])
        · rintro ⟨⟨hcheck, hrest⟩, ⟨hnew, hapart⟩, ⟨hother, hnodup⟩, rfl⟩
          refine ⟨_, ⟨hcheck, hnew, rfl⟩, hrest, fun other hmem => ?_, hnodup,
            by simp⟩
          rw [List.mem_append, List.mem_singleton, not_or]
          exact ⟨hapart other hmem, fun heq => hother (List.mem_map.mpr ⟨other, hmem, heq⟩)⟩
      · simp only [hcounts, Bool.false_eq_true, if_false, false_implies, true_and,
          List.mem_cons, forall_eq_or_imp, List.filter_cons_of_neg, not_false_eq_true]
        constructor
        · rintro ⟨next, ⟨hcheck, rfl⟩, hrest, hapart, hnodup, rfl⟩
          exact ⟨⟨hcheck, hrest⟩, hapart, hnodup, rfl⟩
        · rintro ⟨⟨hcheck, hrest⟩, hapart, hnodup, rfl⟩
          exact ⟨_, ⟨hcheck, rfl⟩, hrest, hapart, hnodup, rfl⟩

/-- Such a walk from no keys succeeds when every item passes its check and the
keys of the items that count are distinct. -/
theorem walkDistinct_eq_ok (hstep : Distinguishes step check counts who)
    {items : List α} (hitems : items.Nodup) : (∃ result, foldChecked step [] items = .ok result) ↔
      (∀ item ∈ items, check item) ∧ ∀ first ∈ items, ∀ second ∈ items, counts first = true →
          counts second = true → who first = who second → first = second := by
  simp only [foldDistinct_eq_ok hstep,
    List.nodup_map_iff_inj_on (hitems.filter counts), List.not_mem_nil,
    not_false_eq_true, implies_true, true_and, List.mem_filter]
  constructor
  · rintro ⟨result, hcheck, hdistinct, -⟩
    exact ⟨hcheck, fun first hfirst second hsecond hcounts hcounted heq =>
      hdistinct first ⟨hfirst, hcounts⟩ second ⟨hsecond, hcounted⟩ heq⟩
  · rintro ⟨hcheck, hdistinct⟩
    exact ⟨_, hcheck, fun first hfirst second hsecond heq =>
      hdistinct first hfirst.1 second hsecond.1 hfirst.2 hsecond.2 heq, rfl⟩

end DodgingInfinity.Checked
