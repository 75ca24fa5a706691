import Mathlib.Data.List.Sort
import Mathlib.Data.String.Basic

/-!
# Canonical JSON values and their digests

Every digest of the Mission records is the SHA-256 of the canonical form of a
JSON value: keys sorted, no white space, ASCII only.  Two values with one
canonical form are one `Json` value here, so a digest is any function of it.
-/

namespace DodgingInfinity

/-- A JSON value as the digests see it. -/
inductive Json where
  | null
  | bool (value : Bool)
  | number (value : Int)
  | text (value : String)
  | list (items : List Json)
  | object (fields : List (String × Json))

namespace Json

def ofNat (value : Nat) : Json := number value

def optional {α : Type} (encode : α → Json) : Option α → Json
  | none => null
  | some value => encode value

def listOf {α : Type} (encode : α → Json) (values : List α) : Json :=
  list (values.map encode)

theorem optional_inj {α : Type} {encode : α → Json}
    (hencode : ∀ {first second}, encode first = encode second → first = second)
    (hnull : ∀ value, encode value ≠ null) {first second : Option α}
    (h : optional encode first = optional encode second) : first = second := by
  cases first with
  | none =>
      cases second with
      | none => rfl
      | some value => exact absurd h.symm (hnull value)
  | some value =>
      cases second with
      | none => exact absurd h (hnull value)
      | some other => exact congrArg some (hencode h)

end Json

/-- The SHA-256 digest of a canonical JSON value, in lowercase hex. -/
class JsonDigest where
  jsonDigest : Json → String

export JsonDigest (jsonDigest)

/-- Python's `sorted` by a text key: stable, ascending by code point. -/
def sortedBy {α : Type} (key : α → String) (items : List α) : List α :=
  items.insertionSort fun first second => key first ≤ key second

theorem sortedBy_perm {α : Type} (key : α → String) (items : List α) :
    (sortedBy key items).Perm items :=
  List.perm_insertionSort _ items

@[simp] theorem mem_sortedBy {α : Type} (key : α → String) (items : List α)
    (item : α) : item ∈ sortedBy key items ↔ item ∈ items :=
  (sortedBy_perm key items).mem_iff

@[simp] theorem length_sortedBy {α : Type} (key : α → String) (items : List α) :
    (sortedBy key items).length = items.length :=
  (sortedBy_perm key items).length_eq

theorem nodup_sortedBy {α : Type} (key : α → String) {items : List α} :
    (sortedBy key items).Nodup ↔ items.Nodup :=
  (sortedBy_perm key items).nodup_iff

@[simp] theorem sortedBy_nil {α : Type} (key : α → String) :
    sortedBy key ([] : List α) = [] := rfl

@[simp] theorem sortedBy_singleton {α : Type} (key : α → String) (item : α) :
    sortedBy key [item] = [item] := rfl

theorem sortedBy_eq_nil {α : Type} (key : α → String) {items : List α} :
    sortedBy key items = [] ↔ items = [] := by
  rw [← List.length_eq_zero_iff, length_sortedBy, List.length_eq_zero_iff]

/-- The keys of a sorted list ascend. -/
theorem pairwise_sortedBy {α : Type} (key : α → String) (items : List α) :
    (sortedBy key items).Pairwise fun first second => key first ≤ key second := by
  have : Std.Total fun first second : α => key first ≤ key second :=
    ⟨fun first second => le_total (key first) (key second)⟩
  have : IsTrans α fun first second => key first ≤ key second :=
    ⟨fun _ _ _ => le_trans⟩
  exact List.pairwise_insertionSort _ items

/-- Sorting again changes nothing. -/
@[simp] theorem sortedBy_sortedBy {α : Type} (key : α → String)
    (items : List α) : sortedBy key (sortedBy key items) = sortedBy key items :=
  (pairwise_sortedBy key items).insertionSort_eq

end DodgingInfinity
