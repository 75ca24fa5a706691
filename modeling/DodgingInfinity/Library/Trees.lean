import Mathlib.Data.Option.Basic
import Mathlib.Order.Defs.Unbundled

/-!
# Trees of files and changes moved between them

A tree holds values at paths, of which none contains another.  A change that a
reviewed tree makes to a base is moved onto another base by taking the reviewed
values where the two differ; where the other base changed no path that the
change touches, contains or is contained by, the result is a tree and differs
from its base exactly as the reviewed tree does from the first one.
-/

namespace DodgingInfinity

namespace Trees

variable {α ν : Type*} (contains : α → α → Prop)

/-- No held path contains another. -/
def Valid (tree : α → Option ν) : Prop :=
  ∀ path other, tree path ≠ none → tree other ≠ none → ¬ contains path other

/-- Neither path is the other, or contains it. -/
def Apart (path other : α) : Prop :=
  path ≠ other ∧ ¬ contains path other ∧ ¬ contains other path

/-- What the first change touches is apart from what the second one does. -/
def Disjoint (base reviewed moved : α → Option ν) : Prop :=
  ∀ path other, base path ≠ reviewed path → base other ≠ moved other → Apart contains path other

/-- A tree that is the reviewed one where that differs from the base, and the
moved base elsewhere. -/
structure Carried (base reviewed moved result : α → Option ν) : Prop where
  changed : ∀ path, base path ≠ reviewed path → result path = reviewed path
  kept : ∀ path, base path = reviewed path → result path = moved path

variable {contains} {base reviewed moved result : α → Option ν}

/-- The moved base still holds the base's values where the change differs. -/
theorem Disjoint.before (h : Disjoint contains base reviewed moved) {path : α}
    (hchanged : base path ≠ reviewed path) : moved path = base path := by
  by_contra hne
  exact (h path path hchanged (fun heq => hne heq.symm)).1 rfl

/-- The result differs from the moved base where the reviewed tree differs from
the base. -/
theorem Carried.differs_iff (h : Carried base reviewed moved result)
    (hdisjoint : Disjoint contains base reviewed moved) {path : α} :
    moved path ≠ result path ↔ base path ≠ reviewed path := by
  by_cases hpath : base path = reviewed path
  · rw [h.kept path hpath]
    exact ⟨fun hne => absurd rfl hne, fun hne => absurd hpath hne⟩
  · rw [h.changed path hpath, hdisjoint.before hpath]

/-- A changed path and a path of the moved base that the change leaves do not
contain each other. -/
theorem Disjoint.apart_of_changed (hdisjoint : Disjoint contains base reviewed moved)
    (hreviewed : Valid contains reviewed) {path other : α}
    (hpath : base path ≠ reviewed path) (hother : base other = reviewed other)
    (hheld : reviewed path ≠ none) (hmoved : moved other ≠ none) :
    ¬ contains path other ∧ ¬ contains other path := by
  by_cases hadvanced : base other = moved other
  · rw [← hadvanced, hother] at hmoved
    exact ⟨hreviewed path other hheld hmoved, hreviewed other path hmoved hheld⟩
  · exact (hdisjoint path other hpath hadvanced).2

/-- A disjoint change carries a tree into a tree. -/
theorem Carried.valid (h : Carried base reviewed moved result)
    (hdisjoint : Disjoint contains base reviewed moved)
    (hreviewed : Valid contains reviewed) (hmoved : Valid contains moved) :
    Valid contains result := by
  intro path other hpath hother
  by_cases hchanged : base path = reviewed path
  · rw [h.kept path hchanged] at hpath
    by_cases hotherChanged : base other = reviewed other
    · rw [h.kept other hotherChanged] at hother
      exact hmoved path other hpath hother
    · rw [h.changed other hotherChanged] at hother
      exact (hdisjoint.apart_of_changed hreviewed hotherChanged hchanged hother hpath).2
  · rw [h.changed path hchanged] at hpath
    by_cases hotherChanged : base other = reviewed other
    · rw [h.kept other hotherChanged] at hother
      exact (hdisjoint.apart_of_changed hreviewed hchanged hotherChanged hpath hother).1
    · rw [h.changed other hotherChanged] at hother
      exact hreviewed path other hpath hother

end Trees

end DodgingInfinity
