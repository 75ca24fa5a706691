import DodgingInfinity.Library.CanonicalText
import DodgingInfinity.Library.Dict
import DodgingInfinity.Library.Numerals
import Mathlib.Algebra.Order.Ring.Unbundled.Rat
import Mathlib.Data.List.Induction

/-!
# JSON texts

Documents over any type of numbers, their reading from a text, and their printing with
one entry or item to a line.  A document that is printed is read back.
-/

namespace DodgingInfinity

namespace JsonText

open Values (CodePoint Text ofChar IsSurrogate)
open Dict (lookupEntries setEntries)

/-! ## Documents -/

/-- A document, over a type of numbers. -/
inductive Doc (ν : Type) where
  | null
  | bool (flag : Bool)
  | number (value : ν)
  | text (content : Text)
  | list (items : List (Doc ν))
  | dict (entries : List (Text × Doc ν))

section

variable {ν μ : Type}

namespace Doc

/-- Induction over the items of lists and the entries of objects. -/
theorem nested {P : Doc ν → Prop} (null : P .null) (bool : ∀ flag, P (.bool flag))
    (number : ∀ value, P (.number value)) (text : ∀ content, P (.text content))
    (list : ∀ items, (∀ item ∈ items, P item) → P (.list items))
    (dict : ∀ entries, (∀ entry ∈ entries, P entry.2) → P (.dict entries))
    (doc : Doc ν) : P doc := by
  have hcons : ∀ {α : Type} {Q : α → Prop} (first : α) (rest : List α), Q first →
      (∀ item ∈ rest, Q item) → ∀ item ∈ first :: rest, Q item := by
    intro α Q first rest hfirst hrest item hitem
    rcases List.mem_cons.mp hitem with rfl | hlater
    · exact hfirst
    · exact hrest item hlater
  apply @Doc.rec ν P (fun items => ∀ item ∈ items, P item)
    (fun entries => ∀ entry ∈ entries, P entry.2) (fun entry => P entry.2)
    null bool number text list dict
  · intro item hitem
    cases hitem
  · exact fun first rest hfirst hrest => hcons first rest hfirst hrest
  · intro entry hentry
    cases hentry
  · exact fun first rest hfirst hrest => hcons first rest hfirst hrest
  · exact fun key held hheld => hheld

end Doc

mutual

/-- The document with its numbers changed. -/
def Doc.map (f : ν → μ) : Doc ν → Doc μ
  | .null => .null
  | .bool flag => .bool flag
  | .number value => .number (f value)
  | .text content => .text content
  | .list items => .list (mapItems f items)
  | .dict entries => .dict (mapEntries f entries)

def mapItems (f : ν → μ) : List (Doc ν) → List (Doc μ)
  | [] => []
  | item :: rest => item.map f :: mapItems f rest

def mapEntries (f : ν → μ) : List (Text × Doc ν) → List (Text × Doc μ)
  | [] => []
  | (key, value) :: rest => (key, value.map f) :: mapEntries f rest

end

/-- What is asked of the texts, the numbers and the keys of a document. -/
structure Test (ν : Type) where
  text : Text → Bool
  number : ν → Bool
  keys : List Text → Bool

mutual

/-- Every text, every number and the keys of every object pass a test. -/
def Doc.all (test : Test ν) : Doc ν → Bool
  | .null => true
  | .bool _ => true
  | .number value => test.number value
  | .text content => test.text content
  | .list items => allItems test items
  | .dict entries => test.keys (entries.map Prod.fst) && allEntries test entries

def allItems (test : Test ν) : List (Doc ν) → Bool
  | [] => true
  | item :: rest => item.all test && allItems test rest

def allEntries (test : Test ν) : List (Text × Doc ν) → Bool
  | [] => true
  | (key, value) :: rest => test.text key && value.all test && allEntries test rest

end

mutual

/-- How deep lists and objects are nested. -/
def Doc.depth : Doc ν → Nat
  | .list items => depthOfItems items + 1
  | .dict entries => depthOfEntries entries + 1
  | _ => 0

def depthOfItems : List (Doc ν) → Nat
  | [] => 0
  | item :: rest => max item.depth (depthOfItems rest)

def depthOfEntries : List (Text × Doc ν) → Nat
  | [] => 0
  | (_, value) :: rest => max value.depth (depthOfEntries rest)

end

variable {f g : ν → μ} {test : Test ν}

theorem mapItems_eq (f : ν → μ) (items : List (Doc ν)) :
    mapItems f items = items.map (Doc.map f) := by
  induction items with
  | nil => rfl
  | cons item rest ih =>
      rw [mapItems, ih, List.map_cons]

theorem mapEntries_eq (f : ν → μ) (entries : List (Text × Doc ν)) :
    mapEntries f entries = entries.map fun entry => (entry.1, entry.2.map f) := by
  induction entries with
  | nil => rfl
  | cons entry rest ih =>
      obtain ⟨key, value⟩ := entry
      rw [mapEntries, ih, List.map_cons]

variable {items : List (Doc ν)}

theorem allItems_iff :
    allItems test items = true ↔ ∀ item ∈ items, item.all test = true := by
  induction items with
  | nil => simp [allItems]
  | cons item rest ih => simp [allItems, ih]

variable {entries : List (Text × Doc ν)}

theorem allEntries_iff : allEntries test entries = true ↔
      ∀ entry ∈ entries, test.text entry.1 = true ∧ entry.2.all test = true := by
  induction entries with
  | nil => simp [allEntries]
  | cons entry rest ih =>
      obtain ⟨key, value⟩ := entry
      simp [allEntries, ih]

variable {bound : Nat}

theorem depthOfItems_le :
    depthOfItems items ≤ bound ↔ ∀ item ∈ items, item.depth ≤ bound := by
  induction items with
  | nil => simp [depthOfItems]
  | cons item rest ih => simp [depthOfItems, ih]

theorem depthOfEntries_le :
    depthOfEntries entries ≤ bound ↔ ∀ entry ∈ entries, entry.2.depth ≤ bound := by
  induction entries with
  | nil => simp [depthOfEntries]
  | cons entry rest ih =>
      obtain ⟨key, value⟩ := entry
      simp [depthOfEntries, ih]

theorem all_list :
    (Doc.list items).all test = true ↔ ∀ item ∈ items, item.all test = true := by
  rw [Doc.all, allItems_iff]

theorem all_dict : (Doc.dict entries).all test = true ↔ test.keys (entries.map Prod.fst) = true ∧
      ∀ entry ∈ entries, test.text entry.1 = true ∧ entry.2.all test = true := by
  rw [Doc.all, Bool.and_eq_true, allEntries_iff]

theorem map_list (f : ν → μ) (items : List (Doc ν)) :
    (Doc.list items).map f = .list (items.map (Doc.map f)) := by
  rw [Doc.map, mapItems_eq]

theorem map_dict (f : ν → μ) (entries : List (Text × Doc ν)) :
    (Doc.dict entries).map f = .dict (entries.map fun entry => (entry.1, entry.2.map f)) := by
  rw [Doc.map, mapEntries_eq]

theorem map_map {ρ : Type} (g : μ → ρ) (f : ν → μ) (doc : Doc ν) :
    (doc.map f).map g = doc.map fun value => g (f value) := by
  induction doc using Doc.nested with
  | null => rfl
  | bool flag => rfl
  | number value => rfl
  | text content => rfl
  | list items ih =>
      rw [map_list, map_list, map_list, List.map_map]
      exact congrArg _ (List.map_congr_left ih)
  | dict entries ih =>
      rw [map_dict, map_dict, map_dict, List.map_map]
      refine congrArg _ (List.map_congr_left fun entry hmem => ?_)
      exact congrArg _ (ih entry hmem)

/-- A change of numbers is seen from the numbers it changes. -/
theorem map_eq_map [DecidableEq μ] (f g : ν → μ) (doc : Doc ν) : doc.map f = doc.map g ↔
      doc.all ⟨fun _ => true, fun value => decide (f value = g value), fun _ => true⟩ = true := by
  induction doc using Doc.nested with
  | null => exact iff_of_true rfl rfl
  | bool flag => exact iff_of_true rfl rfl
  | number value => simp [Doc.map, Doc.all]
  | text content => exact iff_of_true rfl rfl
  | list items ih =>
      rw [map_list, map_list, Doc.list.injEq, List.map_inj_left, all_list]
      exact forall₂_congr ih
  | dict entries ih =>
      rw [map_dict, map_dict, Doc.dict.injEq, List.map_inj_left, all_dict]
      simp only [Prod.mk.injEq, true_and]
      exact forall₂_congr ih

theorem all_map (f : ν → μ) (test : Test μ) (doc : Doc ν) : (doc.map f).all test =
      doc.all ⟨test.text, fun value => test.number (f value), test.keys⟩ := by
  induction doc using Doc.nested with
  | null => rfl
  | bool flag => rfl
  | number value => rfl
  | text content => rfl
  | list items ih =>
      rw [map_list, Bool.eq_iff_iff, all_list, all_list, List.forall_mem_map]
      exact forall₂_congr fun item hmem => by rw [ih item hmem]
  | dict entries ih =>
      rw [map_dict, Bool.eq_iff_iff, all_dict, all_dict, List.forall_mem_map, List.map_map]
      refine and_congr Iff.rfl (forall₂_congr fun entry hmem => ?_)
      rw [ih entry hmem]

/-- A test that follows from two tests. -/
theorem all_both {first second other : Test ν}
    (htext : ∀ content, first.text content = true → second.text content = true →
      other.text content = true)
    (hnumber : ∀ value, first.number value = true → second.number value = true →
      other.number value = true) (hkeys : ∀ keys, first.keys keys = true → second.keys keys = true →
      other.keys keys = true)
    {doc : Doc ν} (hfirst : doc.all first = true) (hsecond : doc.all second = true) :
    doc.all other = true := by
  induction doc using Doc.nested with
  | null => rfl
  | bool flag => rfl
  | number value => exact hnumber value hfirst hsecond
  | text content => exact htext content hfirst hsecond
  | list items ih =>
      rw [all_list] at hfirst hsecond ⊢
      exact fun item hmem => ih item hmem (hfirst item hmem) (hsecond item hmem)
  | dict entries ih =>
      rw [all_dict] at hfirst hsecond ⊢
      refine ⟨hkeys _ hfirst.1 hsecond.1, fun entry hmem => ?_⟩
      obtain ⟨hname, hheld⟩ := hfirst.2 entry hmem
      obtain ⟨hother, hvalue⟩ := hsecond.2 entry hmem
      exact ⟨htext _ hname hother, ih entry hmem hheld hvalue⟩

theorem depth_map (f : ν → μ) (doc : Doc ν) : (doc.map f).depth = doc.depth := by
  induction doc using Doc.nested with
  | null => rfl
  | bool flag => rfl
  | number value => rfl
  | text content => rfl
  | list items ih =>
      have hsame : ∀ bound, depthOfItems (items.map (Doc.map f)) ≤ bound ↔
          depthOfItems items ≤ bound := by
        intro bound
        rw [depthOfItems_le, depthOfItems_le, List.forall_mem_map]
        exact forall₂_congr fun item hmem => by rw [ih item hmem]
      rw [map_list, Doc.depth, Doc.depth,
        le_antisymm ((hsame _).mpr (le_refl _)) ((hsame _).mp (le_refl _))]
  | dict entries ih =>
      have hsame : ∀ bound, depthOfEntries (entries.map fun entry =>
          (entry.1, entry.2.map f)) ≤ bound ↔ depthOfEntries entries ≤ bound := by
        intro bound
        rw [depthOfEntries_le, depthOfEntries_le, List.forall_mem_map]
        exact forall₂_congr fun entry hmem => by rw [ih entry hmem]
      rw [map_dict, Doc.depth, Doc.depth,
        le_antisymm ((hsame _).mpr (le_refl _)) ((hsame _).mp (le_refl _))]

end

/-! ## Numbers -/

/-- A number as it is written. -/
structure Literal where
  negative : Bool
  whole : List Char
  fraction : List Char
  exponent : Option (Bool × List Char)
  deriving DecidableEq

def isDigit (character : Char) : Bool := '0' ≤ character ∧ character ≤ '9'

def allDigits (text : List Char) : Bool := text.all isDigit

def isExponent : Option (Bool × List Char) → Bool
  | none => true
  | some (_, digits) => digits ≠ [] ∧ allDigits digits

/-- A literal of the grammar: digits without a leading zero, and digits after a point and
after the exponent's letter. -/
structure Literal.WellFormed (literal : Literal) : Prop where
  some_whole : literal.whole ≠ []
  whole : allDigits literal.whole = true
  leading : literal.whole = ['0'] ∨ literal.whole.head? ≠ some '0'
  fraction : allDigits literal.fraction = true
  exponent : isExponent literal.exponent = true

instance (literal : Literal) : Decidable literal.WellFormed :=
  decidable_of_iff (literal.whole ≠ [] ∧ allDigits literal.whole = true ∧
      (literal.whole = ['0'] ∨ literal.whole.head? ≠ some '0') ∧
        allDigits literal.fraction = true ∧ isExponent literal.exponent = true)
    ⟨fun h => ⟨h.1, h.2.1, h.2.2.1, h.2.2.2.1, h.2.2.2.2⟩, fun h => ⟨h.1, h.2, h.3, h.4, h.5⟩⟩

def Literal.isInteger (literal : Literal) : Bool :=
  literal.fraction = [] ∧ literal.exponent = none

def digitValue (character : Char) : Nat := character.toNat - '0'.toNat

def naturalOf (digits : List Char) : Nat :=
  digits.foldl (fun value digit => 10 * value + digitValue digit) 0

def Literal.integer (literal : Literal) : Int :=
  if literal.negative then -(naturalOf literal.whole : Int) else naturalOf literal.whole

def exponentOf : Option (Bool × List Char) → Int
  | none => 0
  | some (true, digits) => -(naturalOf digits : Int)
  | some (false, digits) => naturalOf digits

/-- The number that a literal denotes. -/
def Literal.value (literal : Literal) : Rat :=
  (if literal.negative then -1 else 1) * (naturalOf (literal.whole ++ literal.fraction) : Rat) *
    (10 : Rat) ^ (exponentOf literal.exponent - literal.fraction.length)

def printedExponent : Option (Bool × List Char) → List Char
  | none => []
  | some (negative, digits) => 'e' :: (if negative then '-' else '+') :: digits

def Literal.printed (literal : Literal) : List Char :=
  (if literal.negative then ['-'] else []) ++ (literal.whole ++
    ((if literal.fraction = [] then [] else '.' :: literal.fraction) ++
      printedExponent literal.exponent))

def integerLiteral (number : Int) : Literal :=
  ⟨number < 0, Nat.toDigits 10 number.natAbs, [], none⟩

/-- What stands for a number in a text; the last three are no JSON. -/
inductive Numeral where
  | written (literal : Literal)
  | notANumber
  | infinity
  | minusInfinity
  deriving DecidableEq

def Numeral.printed : Numeral → List Char
  | .written literal => literal.printed
  | .notANumber => "NaN".toList
  | .infinity => "Infinity".toList
  | .minusInfinity => "-Infinity".toList

/-- A numeral of the grammar; an integer has at most as many digits as are read. -/
def Numeral.Valid : Numeral → Prop
  | .written literal => literal.WellFormed ∧
      (literal.isInteger = true → literal.whole.length ≤ Numerals.maxDigits)
  | _ => True

instance : DecidablePred Numeral.Valid
  | .written literal => inferInstanceAs (Decidable (literal.WellFormed ∧
      (literal.isInteger = true → literal.whole.length ≤ Numerals.maxDigits)))
  | .notANumber => .isTrue trivial
  | .infinity => .isTrue trivial
  | .minusInfinity => .isTrue trivial

/-- What a numeral denotes. -/
inductive Quantity where
  | rational (value : Rat)
  | notANumber
  | infinity
  | minusInfinity
  deriving DecidableEq

def Numeral.quantity : Numeral → Quantity
  | .written literal => .rational literal.value
  | .notANumber => .notANumber
  | .infinity => .infinity
  | .minusInfinity => .minusInfinity

/-! ## Numbers as the host holds them -/

inductive Double (F : Type) where
  | finite (value : F)
  | infinite (negative : Bool)
  deriving DecidableEq

/-- How the host reads and writes finite doubles: what is written is a literal with a
fraction or an exponent, and is read back. -/
class Doubles (F : Type) where
  read : Literal → Double F
  write : F → Literal
  write_wellFormed : ∀ value, (write value).WellFormed
  write_isInteger : ∀ value, (write value).isInteger = false
  read_write : ∀ value, read (write value) = .finite value

inductive Number (F : Type) where
  | int (value : Int)
  | float (value : F)
  | notANumber
  | infinity
  | minusInfinity

section

variable {F : Type} [Doubles F]

def ofDouble : Double F → Number F
  | .finite value => .float value
  | .infinite false => .infinity
  | .infinite true => .minusInfinity

/-- The number that is held for a numeral: an integer as it is, and else a double. -/
def Numeral.held : Numeral → Number F
  | .written literal =>
      if literal.isInteger then .int literal.integer else ofDouble (Doubles.read literal)
  | .notANumber => .notANumber
  | .infinity => .infinity
  | .minusInfinity => .minusInfinity

/-- The numeral that a number is written as. -/
def Number.numeral : Number F → Numeral
  | .int value => .written (integerLiteral value)
  | .float value => .written (Doubles.write value)
  | .notANumber => .notANumber
  | .infinity => .infinity
  | .minusInfinity => .minusInfinity

/-- A numeral as it is written again. -/
def Numeral.rewritten (F : Type) [Doubles F] (numeral : Numeral) : Numeral :=
  (numeral.held (F := F)).numeral

theorem digitValue_digitChar : ∀ digit < 10, digitValue (Nat.digitChar digit) = digit := by
  decide

theorem isDigit_digitChar : ∀ digit < 10, isDigit (Nat.digitChar digit) = true := by
  decide

theorem naturalOf_concat (digits : List Char) (last : Char) :
    naturalOf (digits ++ [last]) = 10 * naturalOf digits + digitValue last := by
  unfold naturalOf
  rw [List.foldl_append, List.foldl_cons, List.foldl_nil]

theorem naturalOf_map {digits : List Nat} (h : ∀ digit ∈ digits, digit < 10) :
    naturalOf (digits.map Nat.digitChar) = Numerals.valueOf digits := by
  induction digits using List.reverseRecOn with
  | nil => rfl
  | append_singleton leading last ih =>
      rw [List.map_append, List.map_singleton, naturalOf_concat, Numerals.valueOf_append,
        ih fun digit hmem => h digit (List.mem_append_left _ hmem),
        digitValue_digitChar last (h last (by simp))]

/-- The digits of a number denote it. -/
theorem naturalOf_toDigits (number : Nat) : naturalOf (Nat.toDigits 10 number) = number := by
  obtain ⟨digits, -, hdigits, hvalue, htext⟩ := Numerals.toDigits_eq_map number
  rw [htext, naturalOf_map hdigits, hvalue]

theorem allDigits_toDigits (number : Nat) : allDigits (Nat.toDigits 10 number) = true := by
  obtain ⟨digits, -, hdigits, -, htext⟩ := Numerals.toDigits_eq_map number
  rw [htext, allDigits, List.all_eq_true]
  intro character hmem
  obtain ⟨digit, hdigit, rfl⟩ := List.mem_map.mp hmem
  exact isDigit_digitChar digit (hdigits digit hdigit)

theorem leading_toDigits (number : Nat) :
    Nat.toDigits 10 number = ['0'] ∨ (Nat.toDigits 10 number).head? ≠ some '0' := by
  rcases Nat.eq_zero_or_pos number with rfl | hpos
  · exact Or.inl (Nat.toDigits_zero 10)
  · exact Or.inr (Numerals.head?_toDigits hpos)

theorem wellFormed_integerLiteral (number : Int) : (integerLiteral number).WellFormed :=
  ⟨Nat.toDigits_ne_nil, allDigits_toDigits _, leading_toDigits _, rfl, rfl⟩

theorem digitValue_lt {character : Char} (h : isDigit character = true) :
    digitValue character < 10 := by
  have hbound : character.toNat ≤ '9'.toNat := (of_decide_eq_true h).2
  have hnine : '9'.toNat = '0'.toNat + 9 := rfl
  unfold digitValue
  omega

theorem naturalOf_lt {digits : List Char} (h : allDigits digits = true) :
    naturalOf digits < 10 ^ digits.length := by
  induction digits using List.reverseRecOn with
  | nil => exact Nat.one_pos
  | append_singleton leading last ih =>
      unfold allDigits at h ih
      rw [List.all_append, Bool.and_eq_true] at h
      have hleading := ih h.1
      have hlast := digitValue_lt (List.all_eq_true.mp h.2 last List.mem_cons_self)
      rw [naturalOf_concat, List.length_append, List.length_singleton, Nat.pow_succ]
      omega

theorem length_integerLiteral {literal : Literal} (h : literal.WellFormed) :
    (integerLiteral literal.integer).whole.length ≤ literal.whole.length := by
  have habs : literal.integer.natAbs = naturalOf literal.whole := by
    unfold Literal.integer
    split
    · exact Int.natAbs_neg _
    · rfl
  have hpos : 0 < literal.whole.length := List.length_pos_of_ne_nil h.some_whole
  unfold integerLiteral
  rw [habs]
  exact (Nat.length_toDigits_le_iff (by decide) hpos).mpr (naturalOf_lt h.whole)

theorem integer_integerLiteral (number : Int) : (integerLiteral number).integer = number := by
  unfold integerLiteral Literal.integer
  simp only [naturalOf_toDigits, decide_eq_true_eq]
  split
  · omega
  · omega

theorem held_numeral (number : Number F) : number.numeral.held = number := by
  cases number with
  | int value =>
      rw [Number.numeral, Numeral.held,
        if_pos (show (integerLiteral value).isInteger = true from rfl), integer_integerLiteral]
  | float value =>
      rw [Number.numeral, Numeral.held, if_neg (by simp [Doubles.write_isInteger]),
        Doubles.read_write]
      rfl
  | notANumber => rfl
  | infinity => rfl
  | minusInfinity => rfl

/-- What is written again is valid. -/
theorem valid_rewritten {numeral : Numeral} (h : numeral.Valid) :
    (numeral.rewritten F).Valid := by
  have hdouble : ∀ double : Double F, (ofDouble double).numeral.Valid := by
    intro double
    cases double with
    | finite value =>
        refine ⟨Doubles.write_wellFormed value, fun hinteger => ?_⟩
        rw [Doubles.write_isInteger] at hinteger
        cases hinteger
    | infinite negative => cases negative <;> trivial
  cases numeral with
  | notANumber => trivial
  | infinity => trivial
  | minusInfinity => trivial
  | written literal =>
      unfold Numeral.rewritten
      rw [Numeral.held]
      split
      · next hinteger =>
          exact ⟨wellFormed_integerLiteral _, fun _ =>
            (length_integerLiteral h.1).trans (h.2 hinteger)⟩
      · exact hdouble _

theorem rewritten_rewritten (numeral : Numeral) :
    (numeral.rewritten F).rewritten F = numeral.rewritten F := by
  unfold Numeral.rewritten
  rw [held_numeral]

end

/-! ## Texts -/

def isPlain (text : Text) : Bool := text.all fun point => ¬ IsSurrogate point

def charOf (point : CodePoint) : Char := Char.ofNat point.val

/-- A code point between quotes; only ASCII is ever escaped. -/
def escapePoint (point : CodePoint) : List Char :=
  match Values.shortEscapes.find? fun escape => escape.1 = point.val with
  | some escape => ['\\', escape.2]
  | none =>
      if point.val < 0x20 then '\\' :: 'u' :: Values.hexDigits point.val else [charOf point]

def quoted (text : Text) : List Char := '"' :: (text.flatMap escapePoint ++ ['"'])

def hexValue (digit : Char) : Option Nat :=
  if isDigit digit then some (digit.toNat - 0x30)
  else if 'a' ≤ digit ∧ digit ≤ 'f' then some (digit.toNat - 0x57)
  else if 'A' ≤ digit ∧ digit ≤ 'F' then some (digit.toNat - 0x37)
  else none

def hexUnit (first second third fourth : Char) : Option Nat := do
  let first ← hexValue first
  let second ← hexValue second
  let third ← hexValue third
  let fourth ← hexValue fourth
  pure (((first * 16 + second) * 16 + third) * 16 + fourth)

/-- What an escape with a letter stands for. -/
def escapedPoint (letter : Char) : Option CodePoint :=
  if letter = '/' then some (ofChar '/')
  else (Values.shortEscapes.find? fun escape => escape.2 = letter).map fun escape =>
    Fin.ofNat 0x110000 escape.1

/-- The code points up to the closing quote; each escaped unit is one. -/
def readPoints : List Char → Option (Text × List Char)
  | [] => none
  | '"' :: rest => some ([], rest)
  | '\\' :: 'u' :: first :: second :: third :: fourth :: rest =>
      match hexUnit first second third fourth, readPoints rest with
      | some unit, some (points, rest) => some (Fin.ofNat 0x110000 unit :: points, rest)
      | _, _ => none
  | '\\' :: letter :: rest =>
      match escapedPoint letter, readPoints rest with
      | some point, some (points, rest) => some (point :: points, rest)
      | _, _ => none
  | character :: rest =>
      if character.toNat < 0x20 then none
      else match readPoints rest with
        | some (points, rest) => some (ofChar character :: points, rest)
        | none => none

def isHigh (point : CodePoint) : Bool := 0xD800 ≤ point.val ∧ point.val ≤ 0xDBFF

def isLow (point : CodePoint) : Bool := 0xDC00 ≤ point.val ∧ point.val ≤ 0xDFFF

def paired (high low : CodePoint) : CodePoint :=
  Fin.ofNat 0x110000 (0x10000 + (high.val - 0xD800) * 0x400 + (low.val - 0xDC00))

/-- A high surrogate and the low one after it are one code point. -/
def joinPairs : Text → Text
  | high :: low :: rest =>
      if isHigh high ∧ isLow low then paired high low :: joinPairs rest
      else high :: joinPairs (low :: rest)
  | short => short

/-- The text after an opening quote. -/
def readText (text : List Char) : Option (Text × List Char) :=
  (readPoints text).map fun read => (joinPairs read.1, read.2)

variable {point : CodePoint} {text : Text}

theorem ofChar_charOf (h : ¬ IsSurrogate point) : ofChar (charOf point) = point := by
  have hbound := point.isLt
  have hvalid : point.val.isValidChar := by
    unfold IsSurrogate at h
    unfold Nat.isValidChar
    omega
  apply Fin.ext
  unfold ofChar charOf
  have hcode : (Char.ofNat point.val).toNat = point.val := by
    unfold Char.ofNat
    rw [dif_pos hvalid]
    rfl
  exact hcode

theorem readPoints_letter : ∀ escape ∈ Values.shortEscapes, ∀ rest,
    readPoints ('\\' :: escape.2 :: rest) =
      (readPoints rest).map fun read => (Fin.ofNat 0x110000 escape.1 :: read.1, read.2) := by
  intro escape hmem rest
  have hletter : escapedPoint escape.2 = some (Fin.ofNat 0x110000 escape.1) ∧
      escape.2 ≠ 'u' := by
    revert escape
    decide
  rw [readPoints.eq_4 _ _ (fun _ _ _ _ _ heq => absurd heq hletter.2), hletter.1]
  cases readPoints rest <;> rfl

theorem hexValue_digitChar : ∀ digit < 16, hexValue (Nat.digitChar digit) = some digit := by
  decide

theorem readPoints_hex {unit : Nat} (h : unit < 0x10000) (rest : List Char) :
    readPoints ('\\' :: 'u' :: (Values.hexDigits unit ++ rest)) =
      (readPoints rest).map fun read => (Fin.ofNat 0x110000 unit :: read.1, read.2) := by
  have hread : hexUnit (Nat.digitChar (unit / 4096 % 16)) (Nat.digitChar (unit / 256 % 16))
      (Nat.digitChar (unit / 16 % 16)) (Nat.digitChar (unit % 16)) = some unit := by
    unfold hexUnit
    rw [hexValue_digitChar _ (Nat.mod_lt _ (by decide)),
      hexValue_digitChar _ (Nat.mod_lt _ (by decide)),
      hexValue_digitChar _ (Nat.mod_lt _ (by decide)),
      hexValue_digitChar _ (Nat.mod_lt _ (by decide))]
    simp only [Option.bind_eq_bind, Option.bind_some, Option.pure_def, Option.some.injEq]
    omega
  rw [Values.hexDigits]
  simp only [List.cons_append, List.nil_append]
  rw [readPoints, hread]
  cases readPoints rest <;> rfl

theorem readPoints_plain {character : Char} (h : 0x20 ≤ character.toNat)
    (hquote : character ≠ '"') (hslash : character ≠ '\\') (rest : List Char) :
    readPoints (character :: rest) =
      (readPoints rest).map fun read => (ofChar character :: read.1, read.2) := by
  rw [readPoints.eq_5 _ _ hquote (fun _ _ _ _ _ heq => absurd heq hslash)
    (fun _ _ heq => absurd heq hslash), if_neg (Nat.not_lt.mpr h)]
  cases readPoints rest <;> rfl

theorem ofNat_val (point : CodePoint) : Fin.ofNat 0x110000 point.val = point :=
  Fin.ext (Nat.mod_eq_of_lt point.isLt)

theorem readPoints_escapePoint (h : ¬ IsSurrogate point) (rest : List Char) :
    readPoints (escapePoint point ++ rest) =
      (readPoints rest).map fun read => (point :: read.1, read.2) := by
  unfold escapePoint
  cases hfound : Values.shortEscapes.find? fun escape => escape.1 = point.val with
  | some escape =>
      have hpoint : escape.1 = point.val := by simpa using List.find?_some hfound
      have hread := readPoints_letter escape (List.mem_of_find?_eq_some hfound) rest
      rw [hpoint, ofNat_val] at hread
      exact hread
  | none =>
      simp only
      split
      · next hcontrol =>
          have hread := readPoints_hex (show point.val < 0x10000 by omega) rest
          rw [ofNat_val] at hread
          exact hread
      · next hprinted =>
          have hround := ofChar_charOf h
          have hvalue : (charOf point).toNat = point.val := congrArg Fin.val hround
          have hother : ∀ escape ∈ Values.shortEscapes, escape.1 ≠ point.val := by
            simpa using List.find?_eq_none.mp hfound
          have hquote : charOf point ≠ '"' := by
            intro heq
            rw [heq] at hvalue
            exact hother (0x22, '"') (by decide) hvalue
          have hslash : charOf point ≠ '\\' := by
            intro heq
            rw [heq] at hvalue
            exact hother (0x5C, '\\') (by decide) hvalue
          rw [List.singleton_append, readPoints_plain (by omega) hquote hslash, hround]

theorem isPlain_cons : isPlain (point :: text) = true ↔
    ¬ IsSurrogate point ∧ isPlain text = true := by
  simp [isPlain]

theorem readPoints_quoted (h : isPlain text = true) (rest : List Char) :
    readPoints (text.flatMap escapePoint ++ '"' :: rest) = some (text, rest) := by
  induction text with
  | nil => rfl
  | cons point later ih =>
      obtain ⟨hpoint, hlater⟩ := isPlain_cons.mp h
      rw [List.flatMap_cons, List.append_assoc, readPoints_escapePoint hpoint, ih hlater]
      rfl

theorem joinPairs_plain (h : isPlain text = true) : joinPairs text = text := by
  induction text with
  | nil => rfl
  | cons point later ih =>
      obtain ⟨hpoint, hlater⟩ := isPlain_cons.mp h
      cases later with
      | nil => rfl
      | cons next others =>
          have hhigh : ¬ (isHigh point = true ∧ isLow next = true) := by
            rintro ⟨hhigh, -⟩
            have hbounds := of_decide_eq_true hhigh
            exact hpoint ⟨hbounds.1, by omega⟩
          rw [joinPairs, if_neg hhigh, ih hlater]

/-- A text without surrogates is read back. -/
theorem readText_quoted (h : isPlain text = true) (rest : List Char) :
    readText (text.flatMap escapePoint ++ '"' :: rest) = some (text, rest) := by
  unfold readText
  rw [readPoints_quoted h, Option.map_some, joinPairs_plain h]

/-! ## Literals -/

def readWhole : List Char → Option (List Char × List Char)
  | '0' :: rest => some (['0'], rest)
  | text =>
      if text.takeWhile isDigit = [] then none
      else some (text.takeWhile isDigit, text.dropWhile isDigit)

def readFraction : List Char → List Char × List Char
  | '.' :: rest =>
      if rest.takeWhile isDigit = [] then ([], '.' :: rest)
      else (rest.takeWhile isDigit, rest.dropWhile isDigit)
  | text => ([], text)

def readSign : List Char → Bool × List Char
  | '-' :: rest => (true, rest)
  | '+' :: rest => (false, rest)
  | text => (false, text)

def readExponent : List Char → Option (Bool × List Char) × List Char
  | [] => (none, [])
  | letter :: rest =>
      if (letter = 'e' ∨ letter = 'E') ∧ (readSign rest).2.takeWhile isDigit ≠ [] then
        (some ((readSign rest).1, (readSign rest).2.takeWhile isDigit),
          (readSign rest).2.dropWhile isDigit)
      else (none, letter :: rest)

def readUnsigned (negative : Bool) (text : List Char) : Option (Literal × List Char) :=
  (readWhole text).map fun whole =>
    let fraction := readFraction whole.2
    let exponent := readExponent fraction.2
    (⟨negative, whole.1, fraction.1, exponent.1⟩, exponent.2)

/-- The longest literal at the beginning of a text. -/
def readLiteral : List Char → Option (Literal × List Char)
  | '-' :: rest => readUnsigned true rest
  | text => readUnsigned false text

/-- No literal goes on here. -/
def Delimited (rest : List Char) : Prop :=
  ∀ character ∈ rest.head?, isDigit character = false ∧ character ≠ '.' ∧ character ≠ 'e' ∧
    character ≠ 'E'

variable {rest : List Char}

theorem takeWhile_digits {digits : List Char} (h : allDigits digits = true)
    (hrest : ∀ character ∈ rest.head?, isDigit character = false) :
    (digits ++ rest).takeWhile isDigit = digits ∧ (digits ++ rest).dropWhile isDigit = rest := by
  have hall : ∀ character ∈ digits, isDigit character = true := List.all_eq_true.mp h
  rw [List.takeWhile_append_of_pos hall, List.dropWhile_append_of_pos hall]
  cases rest with
  | nil => exact ⟨List.append_nil _, rfl⟩
  | cons character later =>
      have hstop : ¬ isDigit character = true := by simpa using hrest
      rw [List.takeWhile_cons_of_neg hstop, List.dropWhile_cons_of_neg hstop, List.append_nil]
      exact ⟨rfl, rfl⟩

theorem readExponent_printed {exponent : Option (Bool × List Char)}
    (h : isExponent exponent = true) (hrest : Delimited rest) :
    readExponent (printedExponent exponent ++ rest) = (exponent, rest) := by
  cases exponent with
  | none =>
      cases rest with
      | nil => rfl
      | cons character later =>
          obtain ⟨-, -, hlower, hupper⟩ := hrest character rfl
          rw [printedExponent, List.nil_append, readExponent,
            if_neg fun hletter => hletter.1.elim hlower hupper]
  | some signed =>
      obtain ⟨negative, digits⟩ := signed
      obtain ⟨hsome, hdigits⟩ := of_decide_eq_true h
      obtain ⟨htake, hdrop⟩ := takeWhile_digits hdigits fun character hmem =>
        (hrest character hmem).1
      have hsign : readSign ((if negative then '-' else '+') :: (digits ++ rest)) =
          (negative, digits ++ rest) := by
        cases negative <;> rfl
      rw [printedExponent, List.cons_append, List.cons_append, readExponent, hsign]
      simp only
      rw [htake, hdrop, if_pos ⟨Or.inl trivial, hsome⟩]

theorem delimited_exponent (exponent : Option (Bool × List Char))
    (hrest : Delimited rest) : ∀ character ∈ (printedExponent exponent ++ rest).head?,
      isDigit character = false ∧ character ≠ '.' := by
  intro character hmem
  cases exponent with
  | none => exact ⟨(hrest character hmem).1, (hrest character hmem).2.1⟩
  | some signed =>
      cases hmem
      decide

theorem readFraction_printed {fraction : List Char} (h : allDigits fraction = true)
    (hrest : ∀ character ∈ rest.head?, isDigit character = false ∧ character ≠ '.') :
    readFraction ((if fraction = [] then [] else '.' :: fraction) ++ rest) =
      (fraction, rest) := by
  split
  · next hnone =>
      rw [List.nil_append, hnone]
      unfold readFraction
      split
      · exact absurd rfl (hrest _ rfl).2
      · rfl
  · next hsome =>
      obtain ⟨htake, hdrop⟩ := takeWhile_digits h fun character hmem => (hrest character hmem).1
      rw [List.cons_append, readFraction, htake, hdrop, if_neg hsome]

variable {whole : List Char}

theorem readWhole_digits (hsome : whole ≠ [])
    (h : allDigits whole = true) (hleading : whole = ['0'] ∨ whole.head? ≠ some '0')
    (hrest : ∀ character ∈ rest.head?, isDigit character = false) :
    readWhole (whole ++ rest) = some (whole, rest) := by
  obtain ⟨htake, hdrop⟩ := takeWhile_digits h hrest
  rcases hleading with rfl | hleading
  · rfl
  · unfold readWhole
    split
    · next later heq =>
        cases whole with
        | nil => exact absurd rfl hsome
        | cons first others =>
            cases heq
            exact absurd rfl hleading
    · rw [htake, hdrop, if_neg hsome]

theorem digit_ne_minus (hsome : whole ≠ [])
    (h : allDigits whole = true) : ∀ later, whole ++ rest ≠ '-' :: later := by
  intro later heq
  cases whole with
  | nil => exact hsome rfl
  | cons first others =>
      cases heq
      have hminus := List.all_eq_true.mp h '-' List.mem_cons_self
      revert hminus
      decide

variable {literal : Literal}

/-- A literal is read back, where it ends. -/
theorem readLiteral_printed (h : literal.WellFormed) (hrest : Delimited rest) :
    readLiteral (literal.printed ++ rest) = some (literal, rest) := by
  have hfraction := readFraction_printed h.fraction (delimited_exponent literal.exponent hrest)
  have hstops : ∀ character ∈ ((if literal.fraction = [] then [] else
      '.' :: literal.fraction) ++ (printedExponent literal.exponent ++ rest)).head?,
        isDigit character = false := by
    intro character hmem
    split at hmem
    · exact (delimited_exponent _ hrest character hmem).1
    · cases hmem
      decide
  have hunsigned : readUnsigned literal.negative (literal.whole ++
      ((if literal.fraction = [] then [] else '.' :: literal.fraction) ++
        (printedExponent literal.exponent ++ rest))) = some (literal, rest) := by
    unfold readUnsigned
    rw [readWhole_digits h.some_whole h.whole h.leading hstops, Option.map_some]
    simp only
    rw [hfraction]
    simp only
    rw [readExponent_printed h.exponent hrest]
  unfold Literal.printed
  rw [List.append_assoc, List.append_assoc, List.append_assoc]
  cases hnegative : literal.negative with
  | true =>
      rw [hnegative] at hunsigned
      exact hunsigned
  | false =>
      rw [hnegative] at hunsigned
      rw [if_neg (by simp), List.nil_append, readLiteral.eq_2 _
        (digit_ne_minus h.some_whole h.whole)]
      exact hunsigned

theorem allDigits_takeWhile (text : List Char) : allDigits (text.takeWhile isDigit) = true :=
  List.all_takeWhile

variable {text : List Char}

theorem length_dropWhile_lt (h : text.takeWhile isDigit ≠ []) :
    (text.dropWhile isDigit).length < text.length := by
  have hlength : (text.takeWhile isDigit ++ text.dropWhile isDigit).length = text.length := by
    rw [List.takeWhile_append_dropWhile]
  rw [List.length_append] at hlength
  have hsome := List.length_pos_of_ne_nil h
  omega

theorem readWhole_sound (h : readWhole text = some (whole, rest)) :
    whole ≠ [] ∧ allDigits whole = true ∧ (whole = ['0'] ∨ whole.head? ≠ some '0') ∧
      rest.length < text.length := by
  unfold readWhole at h
  split at h
  · cases h
    exact ⟨List.cons_ne_nil _ _, rfl, Or.inl rfl, Nat.lt_succ_self _⟩
  · next hzero =>
      split at h
      · cases h
      · next hsome =>
          cases h
          refine ⟨hsome, allDigits_takeWhile text, Or.inr ?_, length_dropWhile_lt hsome⟩
          intro hhead
          cases text with
          | nil => exact hsome rfl
          | cons first others =>
              have hfirst : first = '0' := by
                by_cases hdigit : isDigit first = true
                · rw [List.takeWhile_cons_of_pos hdigit] at hhead
                  exact Option.some.inj hhead
                · rw [List.takeWhile_cons_of_neg hdigit] at hsome
                  exact absurd rfl hsome
              exact hzero others (hfirst ▸ rfl)

theorem readFraction_sound (text : List Char) :
    allDigits (readFraction text).1 = true ∧ (readFraction text).2.length ≤ text.length := by
  unfold readFraction
  split
  · split
    · exact ⟨rfl, le_refl _⟩
    · next hsome =>
        exact ⟨allDigits_takeWhile _, (length_dropWhile_lt hsome).le.trans (Nat.le_succ _)⟩
  · exact ⟨rfl, le_refl _⟩

theorem length_readSign (text : List Char) : (readSign text).2.length ≤ text.length := by
  unfold readSign
  split
  · exact Nat.le_succ _
  · exact Nat.le_succ _
  · exact le_refl _

theorem readExponent_sound (text : List Char) :
    isExponent (readExponent text).1 = true ∧ (readExponent text).2.length ≤ text.length := by
  cases text with
  | nil => exact ⟨rfl, le_refl _⟩
  | cons letter rest =>
      rw [readExponent]
      split
      · next hexponent =>
          refine ⟨decide_eq_true ⟨hexponent.2, allDigits_takeWhile _⟩, ?_⟩
          have hsign := length_readSign rest
          have hdrop := length_dropWhile_lt hexponent.2
          simp only [List.length_cons]
          omega
      · exact ⟨rfl, le_refl _⟩

theorem readUnsigned_sound {negative : Bool}
    (h : readUnsigned negative text = some (literal, rest)) :
    literal.WellFormed ∧ rest.length < text.length := by
  obtain ⟨whole, hwhole, hliteral⟩ := Option.map_eq_some_iff.mp h
  obtain ⟨hsome, hdigits, hleading, hlength⟩ := readWhole_sound hwhole
  obtain ⟨hfraction, hafter⟩ := readFraction_sound whole.2
  obtain ⟨hexponent, hlast⟩ := readExponent_sound (readFraction whole.2).2
  cases hliteral
  exact ⟨⟨hsome, hdigits, hleading, hfraction, hexponent⟩, by omega⟩

theorem readLiteral_sound (h : readLiteral text = some (literal, rest)) :
    literal.WellFormed ∧ rest.length < text.length := by
  unfold readLiteral at h
  split at h
  · obtain ⟨hliteral, hlength⟩ := readUnsigned_sound h
    exact ⟨hliteral, hlength.trans (Nat.lt_succ_self _)⟩
  · exact readUnsigned_sound h

end JsonText

end DodgingInfinity
