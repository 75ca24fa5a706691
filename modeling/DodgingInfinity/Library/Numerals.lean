import Mathlib.Data.Nat.Digits.Defs
import Mathlib.Logic.Basic

/-!
# Numerals

The reading of a decimal integer from a text: a sign, and decimal digits of any
script with single underscores between them.  What a number is written as is
read back as that number.
-/

namespace DodgingInfinity

namespace Numerals

/-- The zeros of the scripts that have decimal digits; each is followed by the
other nine. -/
def zeros : List Nat :=
  [0x30, 0x660, 0x6F0, 0x7C0, 0x966, 0x9E6, 0xA66, 0xAE6, 0xB66, 0xBE6, 0xC66, 0xCE6,
    0xD66, 0xDE6, 0xE50, 0xED0, 0xF20, 0x1040, 0x1090, 0x17E0, 0x1810, 0x1946, 0x19D0,
    0x1A80, 0x1A90, 0x1B50, 0x1BB0, 0x1C40, 0x1C50, 0xA620, 0xA8D0, 0xA900, 0xA9D0,
    0xA9F0, 0xAA50, 0xABF0, 0xFF10, 0x104A0, 0x10D30, 0x11066, 0x110F0, 0x11136,
    0x111D0, 0x112F0, 0x11450, 0x114D0, 0x11650, 0x116C0, 0x11730, 0x118E0, 0x11950,
    0x11C50, 0x11D50, 0x11DA0, 0x16A60, 0x16AC0, 0x16B50, 0x1D7CE, 0x1D7D8, 0x1D7E2,
    0x1D7EC, 0x1D7F6, 0x1E140, 0x1E2F0, 0x1E950, 0x1FBF0]

/-- The value of a decimal digit. -/
def digitOf (character : Char) : Option Nat :=
  (zeros.find? fun first => first ≤ character.toNat ∧ character.toNat < first + 10).map
    (character.toNat - ·)

/-- The digits of a numeral; an underscore stands between two of them. -/
def digitsOf : List Char → Option (List Nat)
  | [] => none
  | [last] => (digitOf last).map fun digit => [digit]
  | first :: '_' :: rest => do
      let digit ← digitOf first
      let digits ← digitsOf rest
      pure (digit :: digits)
  | first :: rest => do
      let digit ← digitOf first
      let digits ← digitsOf rest
      pure (digit :: digits)

/-- The most digits a numeral may have. -/
def maxDigits : Nat := 4300

def valueOf (digits : List Nat) : Nat := digits.foldl (fun value digit => 10 * value + digit) 0

def readNatural (text : List Char) : Option Nat := do
  let digits ← digitsOf text
  if digits.length ≤ maxDigits then some (valueOf digits) else none

/-- The number a text without space at its ends denotes. -/
def readInteger : List Char → Option Int
  | '-' :: digits => (readNatural digits).map fun value => -(value : Int)
  | '+' :: digits => (readNatural digits).map fun value => (value : Int)
  | digits => (readNatural digits).map fun value => (value : Int)

theorem digitOf_digitChar : ∀ digit < 10, digitOf (Nat.digitChar digit) = some digit := by
  decide

theorem digitChar_ne_underscore : ∀ digit < 10, Nat.digitChar digit ≠ '_' := by
  decide

theorem digitsOf_cons {digit : Nat} (h : digit < 10) {second : Nat} (hsecond : second < 10)
    (rest : List Char) : digitsOf (digit.digitChar :: second.digitChar :: rest) =
      (digitsOf (second.digitChar :: rest)).map (digit :: ·) := by
  rw [digitsOf.eq_4 _ _ (by simp) (fun other hcons => by
    obtain ⟨hchar, -⟩ := List.cons.inj hcons
    exact absurd hchar (digitChar_ne_underscore second hsecond))]
  rw [digitOf_digitChar digit h]
  cases digitsOf (second.digitChar :: rest) <;> rfl

/-- ASCII digits are read one by one. -/
theorem digitsOf_map {digits : List Nat} (hne : digits ≠ []) (h : ∀ digit ∈ digits, digit < 10) :
    digitsOf (digits.map Nat.digitChar) = some digits := by
  induction digits with
  | nil => exact absurd rfl hne
  | cons digit rest ih =>
      have hdigit := h digit List.mem_cons_self
      cases rest with
      | nil =>
          rw [List.map_singleton, digitsOf, digitOf_digitChar digit hdigit]
          rfl
      | cons second others =>
          have hrest := ih (List.cons_ne_nil _ _)
            fun other hmem => h other (List.mem_cons_of_mem _ hmem)
          rw [List.map_cons] at hrest ⊢
          rw [List.map_cons, digitsOf_cons hdigit
            (h second (List.mem_cons_of_mem _ List.mem_cons_self)), hrest]
          rfl

theorem valueOf_append (digits : List Nat) (last : Nat) :
    valueOf (digits ++ [last]) = 10 * valueOf digits + last := by
  unfold valueOf
  rw [List.foldl_append, List.foldl_cons, List.foldl_nil]

/-- What a number is written as: decimal digits of that value. -/
theorem toDigits_eq_map (number : Nat) :
    ∃ digits, digits ≠ [] ∧ (∀ digit ∈ digits, digit < 10) ∧ valueOf digits = number ∧
      Nat.toDigits 10 number = digits.map Nat.digitChar := by
  induction number using Nat.strongRecOn with
  | ind number ih =>
      by_cases hsmall : number < 10
      · refine ⟨[number], List.cons_ne_nil _ _, ?_, ?_, ?_⟩
        · intro digit hmem
          rw [List.mem_singleton.mp hmem]
          exact hsmall
        · exact Nat.zero_add number
        · rw [Nat.toDigits_of_lt_base hsmall]
          rfl
      · obtain ⟨digits, hne, hdigits, hvalue, htext⟩ := ih (number / 10) (by omega)
        refine ⟨digits ++ [number % 10], by simp, ?_, ?_, ?_⟩
        · intro digit hmem
          rcases List.mem_append.mp hmem with hleading | hlast
          · exact hdigits digit hleading
          · rw [List.mem_singleton.mp hlast]
            exact Nat.mod_lt number (by decide)
        · rw [valueOf_append, hvalue]
          exact Nat.div_add_mod number 10
        · rw [Nat.toDigits_of_base_le (by decide) (Nat.le_of_not_lt hsmall), htext,
            List.map_append]
          rfl

/-- No digits of a positive number begin with a zero. -/
theorem head?_toDigits {number : Nat} (h : 0 < number) :
    (Nat.toDigits 10 number).head? ≠ some '0' := by
  induction number using Nat.strongRecOn with
  | ind number ih =>
      by_cases hsmall : number < 10
      · rw [Nat.toDigits_of_lt_base hsmall]
        intro hhead
        exact h.ne' (Nat.digitChar_eq_zero.mp (Option.some.inj hhead))
      · rw [Nat.toDigits_of_base_le (by decide) (Nat.le_of_not_lt hsmall), List.head?_append]
        have hquotient := ih (number / 10) (by omega) (by omega)
        cases hdigits : (Nat.toDigits 10 (number / 10)).head? with
        | none => exact absurd (List.head?_eq_none_iff.mp hdigits) Nat.toDigits_ne_nil
        | some first =>
            rw [hdigits] at hquotient
            exact hquotient

theorem readNatural_toDigits {number : Nat} (h : (Nat.toDigits 10 number).length ≤ maxDigits) :
    readNatural (Nat.toDigits 10 number) = some number := by
  obtain ⟨digits, hne, hdigits, hvalue, htext⟩ := toDigits_eq_map number
  rw [htext, List.length_map] at h
  unfold readNatural
  rw [htext, digitsOf_map hne hdigits, Option.bind_eq_bind, Option.bind_some, if_pos h, hvalue]

/-- A number that is not too long is read back from what it is written as. -/
theorem readInteger_toDigits {number : Nat} (h : (Nat.toDigits 10 number).length ≤ maxDigits) :
    readInteger (Nat.toDigits 10 number) = some (number : Int) := by
  have hsign : ∀ first rest, Nat.toDigits 10 number = first :: rest →
      first ≠ '-' ∧ first ≠ '+' := by
    intro first rest hcons
    have hdigit : first.isDigit = true :=
      Nat.isDigit_of_mem_toDigits (b := 10) (n := number) (by decide) (by decide)
        (by rw [hcons]; exact List.mem_cons_self)
    constructor <;> rintro rfl <;> exact absurd hdigit (by decide)
  have hnatural := readNatural_toDigits h
  unfold readInteger
  split
  · next rest hcons => exact absurd rfl (hsign _ _ hcons).1
  · next rest hcons => exact absurd rfl (hsign _ _ hcons).2
  · rw [hnatural]
    rfl

end Numerals

end DodgingInfinity
