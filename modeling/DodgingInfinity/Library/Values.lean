import DodgingInfinity.Library.Checked
import DodgingInfinity.Library.Sorting
import Mathlib.Data.List.Lex
import Mathlib.Data.List.Perm.Basic
import Mathlib.Logic.Relation
import Mathlib.Order.Fin.Basic

/-!
# Untyped values

What a JSON reader yields, before anything is known of its shape.  A text is a
list of code points, and a surrogate is a code point like any other.  An object
is the list of its entries; the order of keys is part of the value, and two
values that differ in nothing but orders are rearrangements of each other.
-/

namespace DodgingInfinity

namespace Values

/-- A code point; the surrogates are among them. -/
abbrev CodePoint := Fin 0x110000

instance neZero_points : @NeZero Nat Zero.ofOfNat0 0x110000 := ⟨by decide⟩

abbrev Text := List CodePoint

def ofChar (character : Char) : CodePoint :=
  ⟨character.toNat, by
    have h := character.valid
    simp only [UInt32.isValidChar, Nat.isValidChar] at h
    change character.val.toNat < 0x110000
    omega⟩

def ofString (text : String) : Text := text.toList.map ofChar

theorem ofChar_injective : Function.Injective ofChar := by
  intro first second h
  exact Char.toNat_inj.mp (congrArg (fun point : CodePoint => point.val) h)

/-- A code point that no character has. -/
def IsSurrogate (point : CodePoint) : Prop := 0xD800 ≤ point.val ∧ point.val ≤ 0xDFFF

instance (point : CodePoint) : Decidable (IsSurrogate point) :=
  inferInstanceAs (Decidable (0xD800 ≤ point.val ∧ point.val ≤ 0xDFFF))

/-- The characters of a text, where it has no surrogate. -/
def toString? (text : Text) : Option String :=
  if ∃ point ∈ text, IsSurrogate point then none
  else some (String.ofList (text.map fun point => Char.ofNat point.val))

/-- A value; a float is known by its bits. -/
inductive Value where
  | null
  | bool (flag : Bool)
  | int (number : Int)
  | float (bits : BitVec 64)
  | text (content : Text)
  | list (items : List Value)
  | dict (entries : List (Text × Value))

abbrev Entries := List (Text × Value)

namespace Value

/-- Induction over the items of lists and the entries of objects. -/
theorem nested {P : Value → Prop} (null : P .null) (bool : ∀ flag, P (.bool flag))
    (int : ∀ number, P (.int number)) (float : ∀ bits, P (.float bits))
    (text : ∀ content, P (.text content))
    (list : ∀ items, (∀ item ∈ items, P item) → P (.list items))
    (dict : ∀ entries, (∀ entry ∈ entries, P entry.2) → P (.dict entries))
    (value : Value) : P value := by
  have hcons : ∀ {α : Type} {Q : α → Prop} (first : α) (rest : List α), Q first →
      (∀ item ∈ rest, Q item) → ∀ item ∈ first :: rest, Q item := by
    intro α Q first rest hfirst hrest item hitem
    rcases List.mem_cons.mp hitem with rfl | hlater
    · exact hfirst
    · exact hrest item hlater
  apply @Value.rec P (fun items => ∀ item ∈ items, P item)
    (fun entries => ∀ entry ∈ entries, P entry.2) (fun entry => P entry.2)
    null bool int float text list dict
  · intro item hitem
    cases hitem
  · exact fun first rest hfirst hrest => hcons first rest hfirst hrest
  · intro entry hentry
    cases hentry
  · exact fun first rest hfirst hrest => hcons first rest hfirst hrest
  · exact fun key held hheld => hheld

end Value

/-! ## Equality -/

mutual

def sameValue : Value → Value → Bool
  | .null, .null => true
  | .bool first, .bool second => first == second
  | .int first, .int second => first == second
  | .float first, .float second => first == second
  | .text first, .text second => first == second
  | .list first, .list second => sameItems first second
  | .dict first, .dict second => sameEntries first second
  | _, _ => false

def sameItems : List Value → List Value → Bool
  | [], [] => true
  | first :: rest, second :: others => sameValue first second && sameItems rest others
  | _, _ => false

def sameEntries : Entries → Entries → Bool
  | [], [] => true
  | (key, first) :: rest, (other, second) :: others =>
      key == other && sameValue first second && sameEntries rest others
  | _, _ => false

end

theorem sameItems_iff {items others : List Value}
    (h : ∀ item ∈ items, ∀ other, sameValue item other = true ↔ item = other) :
    sameItems items others = true ↔ items = others := by
  induction items generalizing others with
  | nil => cases others <;> simp [sameItems]
  | cons first rest ih =>
      cases others with
      | nil => simp [sameItems]
      | cons second others =>
          have hfirst := h first List.mem_cons_self second
          have hrest := @ih others fun item hmem => h item (List.mem_cons_of_mem _ hmem)
          simp [sameItems, hfirst, hrest]

theorem sameEntries_iff {entries others : Entries}
    (h : ∀ entry ∈ entries, ∀ other, sameValue entry.2 other = true ↔ entry.2 = other) :
    sameEntries entries others = true ↔ entries = others := by
  induction entries generalizing others with
  | nil => cases others <;> simp [sameEntries]
  | cons first rest ih =>
      cases others with
      | nil => simp [sameEntries]
      | cons second others =>
          have hfirst := h first List.mem_cons_self second.2
          have hrest := @ih others fun entry hmem => h entry (List.mem_cons_of_mem _ hmem)
          obtain ⟨key, value⟩ := first
          obtain ⟨other, held⟩ := second
          simp only at hfirst
          simp [sameEntries, hfirst, hrest]

theorem sameValue_iff (value other : Value) : sameValue value other = true ↔ value = other := by
  induction value using Value.nested generalizing other with
  | null => cases other <;> simp [sameValue]
  | bool flag => cases other <;> simp [sameValue]
  | int number => cases other <;> simp [sameValue]
  | float bits => cases other <;> simp [sameValue]
  | text content => cases other <;> simp [sameValue]
  | list items ih =>
      cases other with
      | list others => simp [sameValue, sameItems_iff ih]
      | _ => simp [sameValue]
  | dict entries ih =>
      cases other with
      | dict others => simp [sameValue, sameEntries_iff ih]
      | _ => simp [sameValue]

instance : DecidableEq Value := fun value other =>
  decidable_of_iff (sameValue value other = true) (sameValue_iff value other)

/-! ## Objects -/

def keys (entries : Entries) : List Text := entries.map Prod.fst

/-- The value under a key. -/
def get? (entries : Entries) (key : String) : Option Value :=
  (entries.find? fun entry => entry.1 = ofString key).map Prod.snd

/-- The value under a key that is known to be there. -/
def field (entries : Entries) (key : String) : Value := (get? entries key).getD .null

/-- The entries of an object that is written out key by key. -/
def entriesOf (fields : List (String × Value)) : Entries :=
  fields.map fun named => (ofString named.1, named.2)

def record (fields : List (String × Value)) : Value := .dict (entriesOf fields)

end Values

end DodgingInfinity
