import Mathlib.Algebra.Group.Nat.Defs
import Mathlib.Data.List.Basic
import Mathlib.Data.Nat.Basic

/-!
# Framed byte strings

Numbers in big-endian order at a fixed width, and lists of byte strings that
are written with their count and with the length of each before it.  A framed
list is recovered from its bytes, so that no byte moves from one part to
another unnoticed.
-/

namespace DodgingInfinity

namespace Framing

abbrev Bytes := List UInt8

/-- A number in big-endian order at a width. -/
def bigEndian : Nat → Nat → Bytes
  | 0, _ => []
  | width + 1, number => bigEndian width (number / 256) ++ [UInt8.ofNat number]

@[simp] theorem length_bigEndian (width number : Nat) :
    (bigEndian width number).length = width := by
  induction width generalizing number with
  | zero => rfl
  | succ width ih => simp [bigEndian, ih]

/-- Numbers that fit a width are recovered from their bytes. -/
theorem bigEndian_injective {width number other : Nat} (hnumber : number < 256 ^ width)
    (hother : other < 256 ^ width) (h : bigEndian width number = bigEndian width other) :
    number = other := by
  induction width generalizing number other with
  | zero =>
      rw [Nat.pow_zero] at hnumber hother
      omega
  | succ width ih =>
      obtain ⟨hquotients, hlast⟩ := List.append_inj' h rfl
      rw [Nat.pow_succ] at hnumber hother
      have hquotient : number / 256 = other / 256 :=
        ih (Nat.div_lt_of_lt_mul (by omega)) (Nat.div_lt_of_lt_mul (by omega)) hquotients
      have hremainder : number % 256 = other % 256 := by
        have hbytes := congrArg UInt8.toNat (List.cons.inj hlast).1
        rwa [UInt8.toNat_ofNat', UInt8.toNat_ofNat'] at hbytes
      omega

/-- A byte string after its length. -/
def framedPart (width : Nat) (part : Bytes) : Bytes := bigEndian width part.length ++ part

/-- A list of byte strings, each after its length, all after their count. -/
def framed (width : Nat) (parts : List Bytes) : Bytes :=
  bigEndian width parts.length ++ parts.flatMap (framedPart width)

/-- The first part is recovered with what follows it. -/
theorem framedPart_append {width : Nat} {part other rest more : Bytes}
    (hpart : part.length < 256 ^ width) (hother : other.length < 256 ^ width)
    (h : framedPart width part ++ rest = framedPart width other ++ more) :
    part = other ∧ rest = more := by
  unfold framedPart at h
  rw [List.append_assoc, List.append_assoc] at h
  obtain ⟨hlengths, htails⟩ := List.append_inj h (by simp)
  exact List.append_inj htails (bigEndian_injective hpart hother hlengths)

/-- Parts that are as many are recovered from their frames. -/
theorem framedParts_injective {width : Nat} {parts others : List Bytes}
    (hparts : ∀ part ∈ parts, part.length < 256 ^ width)
    (hothers : ∀ part ∈ others, part.length < 256 ^ width) (hcount : parts.length = others.length)
    (h : parts.flatMap (framedPart width) = others.flatMap (framedPart width)) :
    parts = others := by
  induction parts generalizing others with
  | nil => exact (List.length_eq_zero_iff.mp hcount.symm).symm
  | cons part parts ih =>
      cases others with
      | nil => cases hcount
      | cons other others =>
          rw [List.flatMap_cons, List.flatMap_cons] at h
          obtain ⟨rfl, hrest⟩ := framedPart_append (hparts part List.mem_cons_self)
            (hothers other List.mem_cons_self) h
          rw [ih (fun held hmem => hparts held (List.mem_cons_of_mem _ hmem))
            (fun held hmem => hothers held (List.mem_cons_of_mem _ hmem))
            (Nat.succ.inj hcount) hrest]

/-- A framed list is recovered from its bytes. -/
theorem framed_injective {width : Nat} {parts others : List Bytes}
    (hparts : ∀ part ∈ parts, part.length < 256 ^ width)
    (hothers : ∀ part ∈ others, part.length < 256 ^ width)
    (hcount : parts.length < 256 ^ width) (hmore : others.length < 256 ^ width)
    (h : framed width parts = framed width others) : parts = others := by
  obtain ⟨hcounts, hframes⟩ := List.append_inj h (by simp)
  exact framedParts_injective hparts hothers (bigEndian_injective hcount hmore hcounts) hframes

end Framing

end DodgingInfinity
