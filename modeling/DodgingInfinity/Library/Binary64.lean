import DodgingInfinity.Library.JsonText
import Mathlib.Data.Int.Log
import Mathlib.Data.Rat.Floor
import Mathlib.Tactic.Ring

/-!
# Double precision

A literal is read as the double nearest to it, and a double is written with the fewest
digits that are read as it again.
-/

namespace DodgingInfinity

namespace JsonText

/-- A finite double, by its sign, mantissa and binary exponent. -/
structure Binary64 where
  negative : Bool
  mantissa : Nat
  exponent : Int
  canonical : (mantissa < 2 ^ 52 ∧ exponent = -1074) ∨
    (2 ^ 52 ≤ mantissa ∧ mantissa < 2 ^ 53 ∧ -1074 ≤ exponent ∧ exponent ≤ 971)
  deriving DecidableEq

namespace Binary64

def magnitude (double : Binary64) : Rat := double.mantissa * (2 : Rat) ^ double.exponent

/-! ## Reading -/

/-- The natural number nearest to a number, an even one where two are as near. -/
def roundEven (number : Rat) : Nat :=
  let below := ⌊number⌋₊
  if number - below < 1 / 2 then below
  else if 1 / 2 < number - below then below + 1
  else if below % 2 = 0 then below else below + 1

/-- The binary exponent of the last place of a number. -/
def scaleOf (number : Rat) : Int :=
  if number = 0 then -1074 else max (-1074) (Int.log 2 number - 52)

theorem canonical_carry {exponent : Int} (h : -1074 ≤ exponent ∧ exponent + 1 ≤ 971) :
    (2 ^ 52 < 2 ^ 52 ∧ exponent + 1 = -1074) ∨
      (2 ^ 52 ≤ 2 ^ 52 ∧ 2 ^ 52 < 2 ^ 53 ∧ -1074 ≤ exponent + 1 ∧ exponent + 1 ≤ 971) :=
  Or.inr ⟨le_refl _, by decide, by omega, h.2⟩

/-- The double nearest to a number that is not negative, under a sign. -/
def nearest (negative : Bool) (number : Rat) : Double Binary64 :=
  let exponent := scaleOf number
  let mantissa := roundEven (number / (2 : Rat) ^ exponent)
  if h : (mantissa < 2 ^ 52 ∧ exponent = -1074) ∨
      (2 ^ 52 ≤ mantissa ∧ mantissa < 2 ^ 53 ∧ -1074 ≤ exponent ∧ exponent ≤ 971) then
    .finite ⟨negative, mantissa, exponent, h⟩
  else if h : mantissa = 2 ^ 53 ∧ -1074 ≤ exponent ∧ exponent + 1 ≤ 971 then
    .finite ⟨negative, 2 ^ 52, exponent + 1, canonical_carry h.2⟩
  else .infinite negative

def readDouble (literal : Literal) : Double Binary64 :=
  nearest literal.negative |literal.value|

/-! ## Writing -/

/-- Digits with the position of the decimal point, as they are printed. -/
def layout (negative : Bool) (digits : List Char) (point : Int) : Literal :=
  if point ≤ -4 ∨ 16 < point then
    let exponent := point - 1
    let written := Nat.toDigits 10 exponent.natAbs
    ⟨negative, digits.take 1, digits.drop 1,
      some (exponent < 0, List.replicate (2 - written.length) '0' ++ written)⟩
  else if point ≤ 0 then
    ⟨negative, ['0'], List.replicate (-point).toNat '0' ++ digits, none⟩
  else if (digits.length : Int) ≤ point then
    ⟨negative, digits ++ List.replicate (point.toNat - digits.length) '0', ['0'], none⟩
  else ⟨negative, digits.take point.toNat, digits.drop point.toNat, none⟩

/-- A decimal with a scale, laid out; zeros at its end are left out. -/
def decimalLayout (negative : Bool) (decimal : Nat) (scale : Int) : Literal :=
  let digits := Nat.toDigits 10 decimal
  layout negative (digits.reverse.dropWhile (· = '0')).reverse (digits.length + scale)

/-- The decimals of a number of digits next to a double, the nearer one first. -/
def decimalsNear (double : Binary64) (length : Nat) : List Literal :=
  let scale := Int.log 10 double.magnitude - length + 1
  let scaled := double.magnitude / (10 : Rat) ^ scale
  let below := ⌊scaled⌋₊
  let low := decimalLayout double.negative below scale
  let high := decimalLayout double.negative (below + 1) scale
  if roundEven scaled = below then [low, high] else [high, low]

/-- The double as a literal of its exact value. -/
def exactly (double : Binary64) : Literal :=
  if 0 ≤ double.exponent then
    ⟨double.negative, Nat.toDigits 10 (double.mantissa * 2 ^ double.exponent.toNat), [],
      some (false, ['0'])⟩
  else
    ⟨double.negative, Nat.toDigits 10 (double.mantissa * 5 ^ (-double.exponent).toNat), [],
      some (true, Nat.toDigits 10 (-double.exponent).toNat)⟩

/-- A literal that is no integer and is read as the double. -/
def Denotes (double : Binary64) (literal : Literal) : Prop :=
  literal.WellFormed ∧ literal.isInteger = false ∧ readDouble literal = .finite double

instance (double : Binary64) (literal : Literal) : Decidable (double.Denotes literal) :=
  inferInstanceAs (Decidable (_ ∧ _ ∧ _))

/-- The nearest literal with the fewest digits that is read as the double; seventeen
digits are always enough. -/
def writeDouble (double : Binary64) : Literal :=
  if double.mantissa = 0 then ⟨double.negative, ['0'], ['0'], none⟩
  else match ((List.range 17).flatMap fun length => decimalsNear double (length + 1)).find?
      fun literal => decide (double.Denotes literal) with
  | some literal => literal
  | none => double.exactly

/-! ## What is written is read back -/

variable {double : Binary64}

theorem roundEven_natCast (number : Nat) : roundEven (number : Rat) = number := by
  have hfloor : ⌊(number : Rat)⌋₊ = number := Nat.floor_natCast number
  unfold roundEven
  rw [hfloor]
  simp only [sub_self]
  rw [if_pos (by norm_num)]

theorem magnitude_eq_zero (h : double.mantissa = 0) : double.magnitude = 0 := by
  unfold magnitude
  rw [h, Nat.cast_zero, zero_mul]

theorem magnitude_pos (h : double.mantissa ≠ 0) : 0 < double.magnitude :=
  mul_pos (Nat.cast_pos.mpr (Nat.pos_of_ne_zero h)) (zpow_pos (by norm_num) _)

/-- The mantissa of a double has its last place where its number has it. -/
theorem scaleOf_magnitude (double : Binary64) : scaleOf double.magnitude = double.exponent := by
  have hcanonical := double.canonical
  unfold scaleOf
  by_cases hzero : double.mantissa = 0
  · rw [if_pos (magnitude_eq_zero hzero)]
    omega
  · have hpos := magnitude_pos hzero
    have hbase : ((2 : Nat) : Rat) = 2 := by norm_num
    rw [if_neg hpos.ne']
    have hbound : ∀ place : Nat, double.mantissa < 2 ^ place →
        Int.log 2 double.magnitude < place + double.exponent := by
      intro place hmantissa
      apply (Int.lt_zpow_iff_log_lt (by decide) hpos).mp
      rw [hbase, zpow_add₀ (by norm_num), zpow_natCast]
      unfold magnitude
      refine mul_lt_mul_of_pos_right ?_ (zpow_pos (by norm_num) _)
      exact_mod_cast hmantissa
    rcases hcanonical with ⟨hsmall, hexponent⟩ | ⟨hlow, hhigh, hleast, hmost⟩
    · have hlog := hbound 52 hsmall
      omega
    · have hlog := hbound 53 hhigh
      have hleastLog : (52 : Int) + double.exponent ≤ Int.log 2 double.magnitude := by
        apply (Int.zpow_le_iff_le_log (by decide) hpos).mp
        rw [hbase, zpow_add₀ (by norm_num)]
        unfold magnitude
        refine mul_le_mul_of_nonneg_right ?_ (zpow_pos (by norm_num) _).le
        exact_mod_cast hlow
      omega

/-- A double is the one nearest to its number. -/
theorem nearest_magnitude (double : Binary64) :
    nearest double.negative double.magnitude = .finite double := by
  have hmantissa : roundEven (double.magnitude / (2 : Rat) ^ double.exponent) =
      double.mantissa := by
    unfold magnitude
    rw [mul_div_cancel_right₀ _ (zpow_ne_zero _ (by norm_num)), roundEven_natCast]
  unfold nearest
  simp only [scaleOf_magnitude, hmantissa]
  rw [dif_pos double.canonical]

/-- The number of a literal without a fraction. -/
theorem value_of_exponent (negative : Bool) (number : Nat) (exponent : Option (Bool × List Char)) :
    |(Literal.mk negative (Nat.toDigits 10 number) [] exponent).value| =
      (number : Rat) * (10 : Rat) ^ exponentOf exponent := by
  have hsign : |(if negative = true then -1 else 1 : Rat)| = 1 := by
    cases negative <;> norm_num
  unfold Literal.value
  simp only [List.append_nil, naturalOf_toDigits, List.length_nil, Nat.cast_zero, sub_zero]
  rw [abs_mul, abs_mul, hsign, one_mul, abs_of_nonneg (Nat.cast_nonneg _),
    abs_of_pos (zpow_pos (by norm_num) _)]

theorem value_exactly (double : Binary64) : |double.exactly.value| = double.magnitude := by
  unfold exactly magnitude
  split
  · next hexponent =>
      obtain ⟨power, hpower⟩ := Int.eq_ofNat_of_zero_le hexponent
      have hzero : exponentOf (some (false, ['0'])) = 0 := rfl
      rw [value_of_exponent, hzero, zpow_zero, mul_one, hpower, Int.toNat_natCast, zpow_natCast]
      push_cast
      rfl
  · next hexponent =>
      obtain ⟨power, hpower⟩ := Int.eq_ofNat_of_zero_le (show 0 ≤ -double.exponent by omega)
      have hexp : double.exponent = -(power : Int) := by omega
      have hten : exponentOf (some (true, Nat.toDigits 10 power)) = -(power : Int) := by
        rw [exponentOf, naturalOf_toDigits]
      rw [value_of_exponent, hpower, Int.toNat_natCast, hten, hexp, zpow_neg, zpow_neg,
        zpow_natCast, zpow_natCast]
      push_cast
      rw [show (10 : Rat) = 2 * 5 by norm_num, mul_pow, mul_inv, mul_assoc]
      congr 1
      rw [mul_comm ((2 : Rat) ^ power)⁻¹, ← mul_assoc,
        mul_inv_cancel₀ (pow_ne_zero _ (by norm_num)), one_mul]

theorem negative_exactly (double : Binary64) : double.exactly.negative = double.negative := by
  unfold exactly
  split <;> rfl

theorem denotes_exactly (double : Binary64) : double.Denotes double.exactly := by
  refine ⟨?_, ?_, ?_⟩
  · unfold exactly
    split
    · exact ⟨Nat.toDigits_ne_nil, allDigits_toDigits _, leading_toDigits _, rfl, rfl⟩
    · exact ⟨Nat.toDigits_ne_nil, allDigits_toDigits _, leading_toDigits _, rfl,
        decide_eq_true ⟨Nat.toDigits_ne_nil, allDigits_toDigits _⟩⟩
  · unfold exactly
    split <;> rfl
  · unfold readDouble
    rw [negative_exactly, value_exactly, nearest_magnitude]

theorem denotes_writeDouble (double : Binary64) : double.Denotes (writeDouble double) := by
  unfold writeDouble
  split
  · next hzero =>
      refine ⟨⟨by simp, rfl, Or.inl rfl, rfl, rfl⟩, rfl, ?_⟩
      have hvalue : (Literal.mk double.negative ['0'] ['0'] none).value = 0 := by
        have hnatural : naturalOf (['0'] ++ ['0']) = 0 := rfl
        unfold Literal.value
        rw [hnatural, Nat.cast_zero, mul_zero, zero_mul]
      unfold readDouble
      rw [hvalue, abs_zero, ← magnitude_eq_zero hzero, nearest_magnitude]
  · split
    · next literal hfound =>
        simpa using List.find?_some hfound
    · exact denotes_exactly double

end Binary64

instance : Doubles Binary64 where
  read := Binary64.readDouble
  write := Binary64.writeDouble
  write_wellFormed double := (Binary64.denotes_writeDouble double).1
  write_isInteger double := (Binary64.denotes_writeDouble double).2.1
  read_write double := (Binary64.denotes_writeDouble double).2.2

end JsonText

end DodgingInfinity
