import DodgingInfinity.Library.Values
import Mathlib.Tactic.IntervalCases

/-!
# The canonical text of a value

Keys sorted, no white space, ASCII only: a code point outside ASCII is written
as its UTF-16 units.  So a surrogate pair and the code point it stands for have
one text, and that is all that two values with one text can differ in.
-/

namespace DodgingInfinity

namespace Values

/-- How the host writes a finite float. -/
class FloatText where
  floatText : BitVec 64 → List Char

export FloatText (floatText)

/-! ## Texts -/

/-- The UTF-16 units of a code point. -/
def unitsOf (point : CodePoint) : List Nat :=
  if point.val < 0x10000 then [point.val]
  else [0xD800 + (point.val - 0x10000) / 0x400, 0xDC00 + (point.val - 0x10000) % 0x400]

def units (text : Text) : List Nat := text.flatMap unitsOf

/-- The units that have an escape of their own, each with its letter. -/
def shortEscapes : List (Nat × Char) :=
  [(0x22, '"'), (0x5C, '\\'), (0x0A, 'n'), (0x0D, 'r'), (0x09, 't'), (0x0C, 'f'), (0x08, 'b')]

def hexDigits (unit : Nat) : List Char :=
  [Nat.digitChar (unit / 4096 % 16), Nat.digitChar (unit / 256 % 16),
    Nat.digitChar (unit / 16 % 16), Nat.digitChar (unit % 16)]

def escapeUnit (unit : Nat) : List Char :=
  match shortEscapes.find? fun escape => escape.1 = unit with
  | some escape => ['\\', escape.2]
  | none =>
      if 0x20 ≤ unit ∧ unit ≤ 0x7E then [Char.ofNat unit]
      else '\\' :: 'u' :: hexDigits unit

def escaped (text : Text) : List Char := (units text).flatMap escapeUnit

def quoted (text : Text) : List Char := '"' :: (escaped text ++ ['"'])

/-! ## Values -/

def decimal (number : Int) : List Char :=
  if number < 0 then '-' :: Nat.toDigits 10 number.natAbs else Nat.toDigits 10 number.natAbs

section

variable [FloatText]

mutual

def render : Value → List Char
  | .null => "null".toList
  | .bool true => "true".toList
  | .bool false => "false".toList
  | .int number => decimal number
  | .float bits => floatText bits
  | .text content => quoted content
  | .list [] => ['[', ']']
  | .list (first :: rest) => '[' :: (render first ++ renderItems rest)
  | .dict [] => ['\x7b', '\x7d']
  | .dict ((key, first) :: rest) =>
      '\x7b' :: (quoted key ++ ':' :: (render first ++ renderEntries rest))

/-- The items after the first, and the end of the list. -/
def renderItems : List Value → List Char
  | [] => [']']
  | item :: rest => ',' :: (render item ++ renderItems rest)

/-- The entries after the first, and the end of the object. -/
def renderEntries : Entries → List Char
  | [] => ['\x7d']
  | (key, value) :: rest => ',' :: (quoted key ++ ':' :: (render value ++ renderEntries rest))

end

end

mutual

/-- The value with the keys of every object sorted. -/
def sortKeys : Value → Value
  | .list items => .list (sortItems items)
  | .dict entries => .dict (Sorting.sortedOn Prod.fst (sortEntries entries))
  | .null => .null
  | .bool flag => .bool flag
  | .int number => .int number
  | .float bits => .float bits
  | .text content => .text content

def sortItems : List Value → List Value
  | [] => []
  | item :: rest => sortKeys item :: sortItems rest

def sortEntries : Entries → Entries
  | [] => []
  | (key, value) :: rest => (key, sortKeys value) :: sortEntries rest

end

def canonicalText [FloatText] (value : Value) : List Char := render (sortKeys value)

/-! ## Numbers are read back -/

/-- What follows a number is no digit. -/
def Stops (rest : List Char) : Prop := ∀ first ∈ rest.head?, first.isDigit = false

theorem digits_append {digits others rest more : List Char}
    (hdigits : ∀ digit ∈ digits, digit.isDigit = true)
    (hothers : ∀ digit ∈ others, digit.isDigit = true) (hrest : Stops rest) (hmore : Stops more)
    (h : digits ++ rest = others ++ more) : digits = others ∧ rest = more := by
  induction digits generalizing others with
  | nil =>
      cases others with
      | nil => exact ⟨rfl, h⟩
      | cons digit later =>
          rw [List.nil_append] at h
          subst h
          have hstop := hrest digit rfl
          rw [hothers digit List.mem_cons_self] at hstop
          cases hstop
  | cons digit later ih =>
      cases others with
      | nil =>
          rw [List.nil_append] at h
          subst h
          have hstop := hmore digit rfl
          rw [hdigits digit List.mem_cons_self] at hstop
          cases hstop
      | cons other remaining =>
          obtain ⟨rfl, htail⟩ := List.cons.inj h
          obtain ⟨rfl, hequal⟩ := ih (fun digit hmem => hdigits digit (List.mem_cons_of_mem _ hmem))
            (fun digit hmem => hothers digit (List.mem_cons_of_mem _ hmem)) htail
          exact ⟨rfl, hequal⟩

theorem isDigit_toDigits {number : Nat} : ∀ digit ∈ Nat.toDigits 10 number, digit.isDigit = true :=
  fun _ hmem => Nat.isDigit_of_mem_toDigits (by decide) (by decide) hmem

theorem toDigits_injective {number other : Nat}
    (h : Nat.toDigits 10 number = Nat.toDigits 10 other) : number = other := by
  rw [← Nat.ofDigitChars_ten_toDigits (n := number), h, Nat.ofDigitChars_ten_toDigits]

theorem head_toDigits (number : Nat) :
    ∃ first rest, Nat.toDigits 10 number = first :: rest ∧ first.isDigit = true := by
  cases h : Nat.toDigits 10 number with
  | nil => exact absurd h Nat.toDigits_ne_nil
  | cons first rest =>
      exact ⟨first, rest, rfl, isDigit_toDigits first (h ▸ List.mem_cons_self)⟩

theorem decimal_append {number other : Int} {rest more : List Char} (hrest : Stops rest)
    (hmore : Stops more) (h : decimal number ++ rest = decimal other ++ more) :
    number = other ∧ rest = more := by
  unfold decimal at h
  split at h
  · split at h
    · obtain ⟨hdigits, hequal⟩ := digits_append isDigit_toDigits isDigit_toDigits hrest hmore
        (List.cons.inj h).2
      have := toDigits_injective hdigits
      exact ⟨by omega, hequal⟩
    · obtain ⟨first, later, heq, hdigit⟩ := head_toDigits other.natAbs
      rw [heq] at h
      rw [← (List.cons.inj h).1] at hdigit
      cases hdigit
  · split at h
    · obtain ⟨first, later, heq, hdigit⟩ := head_toDigits number.natAbs
      rw [heq] at h
      rw [(List.cons.inj h).1] at hdigit
      cases hdigit
    · obtain ⟨hdigits, hequal⟩ := digits_append isDigit_toDigits isDigit_toDigits hrest hmore h
      have := toDigits_injective hdigits
      exact ⟨by omega, hequal⟩

/-! ## Sorted keys -/

theorem sortItems_eq_map (items : List Value) : sortItems items = items.map sortKeys := by
  induction items with
  | nil => rfl
  | cons item rest ih => rw [sortItems, ih, List.map_cons]

theorem sortEntries_eq_map (entries : Entries) :
    sortEntries entries = entries.map fun entry => (entry.1, sortKeys entry.2) := by
  induction entries with
  | nil => rfl
  | cons entry rest ih =>
      obtain ⟨key, value⟩ := entry
      rw [sortEntries, ih, List.map_cons]

end Values

end DodgingInfinity
