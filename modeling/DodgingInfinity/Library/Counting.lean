import Mathlib.Algebra.BigOperators.Group.List.Basic
import Mathlib.Algebra.Order.BigOperators.Group.List
import Mathlib.Algebra.Ring.Int.Defs
import Mathlib.Data.List.Dedup
import Mathlib.Data.List.Nodup

/-!
# Lists with at most one item of a kind

A list is left with one item when its items agree; an item is alone in its name when
the name is counted once.
-/

namespace DodgingInfinity

theorem eq_of_length_le_one {β : Type*} {items : List β} {first second : β}
    (hfew : items.length ≤ 1) (hfirst : first ∈ items) (hsecond : second ∈ items) :
    first = second := by
  cases items with
  | nil => cases hfirst
  | cons only rest =>
      have hrest : rest = [] := by
        rw [← List.length_eq_zero_iff]
        simp only [List.length_cons] at hfew
        omega
      subst hrest
      rw [List.mem_singleton] at hfirst hsecond
      rw [hfirst, hsecond]

theorem length_le_one_of_forall_eq {β : Type*} {items : List β} {only : β}
    (hnodup : items.Nodup) (hall : ∀ item ∈ items, item = only) :
    items.length ≤ 1 := by
  cases items with
  | nil => exact Nat.zero_le 1
  | cons first rest =>
      cases rest with
      | nil => exact Nat.le_refl 1
      | cons second rest =>
          have hfirst := hall first List.mem_cons_self
          have hsecond := hall second (List.mem_cons_of_mem _ List.mem_cons_self)
          rw [List.nodup_cons, hfirst, hsecond] at hnodup
          exact absurd List.mem_cons_self hnodup.1

/-- One value is left of a list when any two of its items share theirs. -/
theorem dedup_length_le_one {α β : Type*} [DecidableEq β] {f : α → β}
    {items : List α} : (items.map f).dedup.length ≤ 1 ↔
      ∀ first ∈ items, ∀ second ∈ items, f first = f second := by
  constructor
  · intro hfew first hfirst second hsecond
    apply eq_of_length_le_one hfew
    · exact List.mem_dedup.mpr (List.mem_map_of_mem hfirst)
    · exact List.mem_dedup.mpr (List.mem_map_of_mem hsecond)
  · intro hsame
    cases items with
    | nil => simp
    | cons item rest =>
        apply length_le_one_of_forall_eq (List.nodup_dedup _)
        intro value hvalue
        obtain ⟨other, hother, rfl⟩ := List.mem_map.mp (List.mem_dedup.mp hvalue)
        exact hsame other hother item List.mem_cons_self

/-- A reordered list is the same up to one item, or both have several. -/
theorem perm_cases {α : Type*} {items others : List α} (hperm : items.Perm others) :
    items = others ∨ (∃ first second rest, items = first :: second :: rest) ∧
      ∃ first second rest, others = first :: second :: rest := by
  cases items with
  | nil => exact .inl hperm.nil_eq
  | cons first rest =>
      cases rest with
      | nil => exact .inl (List.singleton_perm.mp hperm)
      | cons second rest =>
          right
          refine ⟨⟨first, second, rest, rfl⟩, ?_⟩
          have hlength := hperm.length_eq
          cases others with
          | nil => cases hlength
          | cons head tail =>
              cases tail with
              | nil => simp at hlength
              | cons next tail => exact ⟨head, next, tail, rfl⟩

/-- An item of a list without repetitions is alone in its name when that is counted
once. -/
theorem count_filterMap_le_one {α β : Type*} [DecidableEq β] {items : List α}
    {f : α → Option β} {item : α} {name : β} (hnodup : items.Nodup) (hitem : item ∈ items)
    (hname : f item = some name) : (items.filterMap f).count name ≤ 1 ↔
      ∀ other ∈ items, f other = some name → other = item := by
  rw [List.count_filterMap, List.countP_eq_length_filter]
  have hmem : ∀ other, other ∈ items.filter (fun other => f other == some name) ↔
      other ∈ items ∧ f other = some name := by
    intro other
    rw [List.mem_filter, beq_iff_eq]
  constructor
  · intro hone other hother hsame
    apply eq_of_length_le_one hone
    · exact (hmem other).mpr ⟨hother, hsame⟩
    · exact (hmem item).mpr ⟨hitem, hname⟩
  · intro hall
    apply length_le_one_of_forall_eq (hnodup.filter _)
    intro other hother
    exact hall other ((hmem other).mp hother).1 ((hmem other).mp hother).2

/-- Two items that share a name counted once are one. -/
theorem eq_of_count_filterMap_le_one {α β : Type*} [DecidableEq β] {items : List α}
    {f : α → Option β} {first second : α} {name : β}
    (hone : (items.filterMap f).count name ≤ 1) (hfirst : first ∈ items)
    (hsecond : second ∈ items) (hname : f first = some name)
    (hsame : f second = some name) : first = second := by
  rw [List.count_filterMap, List.countP_eq_length_filter] at hone
  apply eq_of_length_le_one hone
  · exact List.mem_filter.mpr ⟨hfirst, by rw [beq_iff_eq]; exact hname⟩
  · exact List.mem_filter.mpr ⟨hsecond, by rw [beq_iff_eq]; exact hsame⟩

/-- The chosen items have distinct names when each of those names is counted once among
all. -/
theorem nodup_map_filter {α β : Type*} [DecidableEq β] {items : List α} {f : α → β}
    {chosen : α → Bool}
    (hone : ∀ item ∈ items, chosen item = true → (items.map f).count (f item) ≤ 1) :
    ((items.filter chosen).map f).Nodup := by
  rw [List.nodup_iff_count_le_one]
  intro name
  by_cases hmem : name ∈ (items.filter chosen).map f
  · obtain ⟨item, hitem, rfl⟩ := List.mem_map.mp hmem
    obtain ⟨hheld, hchosen⟩ := List.mem_filter.mp hitem
    have hsub := (List.filter_sublist (p := chosen) (l := items)).map f
    exact Nat.le_trans (hsub.count_le (f item)) (hone item hheld hchosen)
  · rw [List.count_eq_zero_of_not_mem hmem]
    exact Nat.zero_le 1

end DodgingInfinity

/-!
## Weights of the items of a list

The sum of a weight over the items that pass a test, and how it changes when an
item is added or replaced.
-/

namespace DodgingInfinity

namespace Weights

variable {α : Type*} {test : α → Bool} {weight other : α → Int} {items : List α}

/-- The weight of the items that pass the test. -/
def weigh (test : α → Bool) (weight : α → Int) (items : List α) : Int :=
  ((items.filter test).map weight).sum

@[simp] theorem weigh_nil : weigh test weight [] = 0 := rfl

theorem weigh_cons (item : α) (rest : List α) : weigh test weight (item :: rest) =
      (if test item then weight item else 0) + weigh test weight rest := by
  unfold weigh
  rw [List.filter_cons]
  split <;> simp

@[simp] theorem weigh_append (items others : List α) :
    weigh test weight (items ++ others) =
      weigh test weight items + weigh test weight others := by
  simp [weigh]

/-- An item replaced by one that answers the test alike. -/
theorem weigh_set {index : Nat} {old new : α} (hold : items[index]? = some old)
    (htest : test new = test old) : weigh test weight (items.set index new) =
      weigh test weight items + if test old then weight new - weight old else 0 := by
  induction items generalizing index with
  | nil => cases hold
  | cons item rest ih =>
      cases index with
      | zero =>
          obtain rfl := Option.some.inj hold
          rw [List.set_cons_zero, weigh_cons, weigh_cons, htest]
          split <;> omega
      | succ index =>
          rw [List.set_cons_succ, weigh_cons, weigh_cons, ih hold]
          omega

theorem weigh_eq_zero (h : ∀ item ∈ items, test item = false) : weigh test weight items = 0 := by
  have hnone : items.filter test = [] := by
    rw [List.filter_eq_nil_iff]
    intro item hmem
    simp [h item hmem]
  rw [weigh, hnone]
  rfl

end Weights

/-! ## An item changed in its place -/

section

variable {α β κ : Type*} [DecidableEq κ] {items : List α} {held : α} {key : α → κ}
  {change : α → α}

theorem nodup_map_update (hnodup : (items.map key).Nodup)
    (hkey : ∀ item, key (change item) = key item) (name : κ) :
    ((items.map fun item => if key item = name then change item else item).map
      key).Nodup := by
  have hsame : (key ∘ fun item => if key item = name then change item else item) = key := by
    funext item
    rw [Function.comp_apply]
    split
    · exact hkey item
    · rfl
  rwa [List.map_map, hsame]

omit [DecidableEq κ] in
theorem nodup_map_append (hnodup : (items.map key).Nodup)
    (hfresh : key held ∉ items.map key) : ((items ++ [held]).map key).Nodup := by
  rw [List.map_append, List.map_singleton]
  exact hnodup.append (List.nodup_singleton _) (List.disjoint_singleton.mpr hfresh)

/-- What one item gains, the whole list gains. -/
theorem count_flatMap_update [BEq β] (f : α → List β) (change : α → α) {added : List β}
    (hnodup : (items.map key).Nodup) (hmem : held ∈ items)
    (hchange : f (change held) = f held ++ added) (mark : β) :
    ((items.map fun item => if key item = key held then change item else item).flatMap
      f).count mark = (items.flatMap f).count mark + added.count mark := by
  induction items with
  | nil => simp at hmem
  | cons first rest ih =>
      rw [List.map_cons, List.nodup_cons] at hnodup
      simp only [List.map_cons, List.flatMap_cons, List.count_append]
      rcases List.mem_cons.mp hmem with rfl | hrest
      · have hsame : (rest.map fun item => if key item = key held then change item
            else item) = rest := by
          refine (List.map_congr_left fun item hitem => if_neg ?_).trans (List.map_id rest)
          exact fun heq => hnodup.1 (heq ▸ List.mem_map_of_mem hitem)
        rw [hsame, if_pos rfl, hchange, List.count_append]
        omega
      · have hne : key first ≠ key held :=
          fun heq => hnodup.1 (heq ▸ List.mem_map_of_mem hrest)
        rw [if_neg hne, ih hnodup.2 hrest]
        omega

end

end DodgingInfinity
