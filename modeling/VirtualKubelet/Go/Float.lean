import Mathlib

/-!
# Integers as floating-point numbers

The bits of the `float64` that stands for an integer, and the integer that the
bits of a `float64` stand for, if they do. Integers of at most 53 bits come
back.
-/

namespace VirtualKubelet.Go

/-- `float64(n)`, for an integer of at most 53 bits. -/
def floatOfInt (n : Int) : UInt64 :=
  if n = 0 then 0
  else
    let exponent := n.natAbs.log2
    let sign := if n < 0 then 1 else 0
    UInt64.ofNat
      (sign * 2 ^ 63 + (exponent + 1023) * 2 ^ 52 + (n.natAbs * 2 ^ (52 - exponent) - 2 ^ 52))

/-- The integer of at most 53 bits that a `float64` is. -/
def floatInteger (bits : UInt64) : Option Int :=
  let exponent := bits.toNat / 2 ^ 52 % 2 ^ 11
  let unit := 2 ^ (1075 - exponent)
  let significand := 2 ^ 52 + bits.toNat % 2 ^ 52
  if bits = 0 then some 0
  else if exponent < 1023 ∨ 1075 < exponent ∨ significand % unit ≠ 0 then none
  else if bits.toNat / 2 ^ 63 = 1 then some (-(significand / unit : Nat))
  else some (significand / unit : Nat)

theorem bits_parts {sign exponent mantissa : Nat} (hsign : sign < 2) (hexp : exponent < 2 ^ 11)
    (hmant : mantissa < 2 ^ 52) :
    let bits := UInt64.ofNat (sign * 2 ^ 63 + exponent * 2 ^ 52 + mantissa)
    bits.toNat / 2 ^ 63 = sign ∧ bits.toNat / 2 ^ 52 % 2 ^ 11 = exponent ∧
      bits.toNat % 2 ^ 52 = mantissa ∧ (bits = 0 → exponent = 0) := by
  intro bits
  have hnat : bits.toNat = sign * 2 ^ 63 + exponent * 2 ^ 52 + mantissa := by
    apply UInt64.toNat_ofNat_of_lt
    show _ < 2 ^ 64
    omega
  refine ⟨by omega, by omega, by omega, ?_⟩
  intro hzero
  rw [hzero] at hnat
  have : (0 : UInt64).toNat = 0 := rfl
  omega

theorem significand_bounds (hne : a ≠ 0) (h : a < 2 ^ 53) :
    a.log2 ≤ 52 ∧ 2 ^ 52 ≤ a * 2 ^ (52 - a.log2) ∧ a * 2 ^ (52 - a.log2) < 2 ^ 53 := by
  have hlog : a.log2 < 53 := (Nat.log2_lt hne).mpr h
  have hlow : 2 ^ a.log2 ≤ a := Nat.log2_self_le hne
  have hhigh : a < 2 ^ (a.log2 + 1) := Nat.lt_log2_self
  have hpos : 0 < 2 ^ (52 - a.log2) := Nat.two_pow_pos _
  refine ⟨by omega, ?_, ?_⟩
  · calc 2 ^ 52 = 2 ^ a.log2 * 2 ^ (52 - a.log2) := by
          rw [← Nat.pow_add, Nat.add_sub_cancel' (by omega)]
      _ ≤ a * 2 ^ (52 - a.log2) := Nat.mul_le_mul_right _ hlow
  calc a * 2 ^ (52 - a.log2) < 2 ^ (a.log2 + 1) * 2 ^ (52 - a.log2) :=
        Nat.mul_lt_mul_of_pos_right hhigh hpos
    _ = 2 ^ 53 := by
        rw [← Nat.pow_add]
        congr 1
        omega

theorem floatInteger_floatOfInt {n : Int} (h : n.natAbs < 2 ^ 53) :
    floatInteger (floatOfInt n) = some n := by
  by_cases hzero : n = 0
  · subst hzero
    rfl
  obtain ⟨hlog, hlow, hhigh⟩ := significand_bounds (Int.natAbs_ne_zero.mpr hzero) h
  have hsign : (if n < 0 then 1 else 0) < 2 := by split <;> omega
  obtain ⟨hs, he, hm, hz⟩ := @bits_parts (if n < 0 then 1 else 0) (n.natAbs.log2 + 1023)
    (n.natAbs * 2 ^ (52 - n.natAbs.log2) - 2 ^ 52) hsign (by omega) (by omega)
  rw [floatOfInt, if_neg hzero, floatInteger]
  dsimp only at hs he hm hz ⊢
  have hunit : 1075 - (n.natAbs.log2 + 1023) = 52 - n.natAbs.log2 := by omega
  have hsignificand : 2 ^ 52 + (n.natAbs * 2 ^ (52 - n.natAbs.log2) - 2 ^ 52) =
      n.natAbs * 2 ^ (52 - n.natAbs.log2) := by omega
  have hpos : 0 < 2 ^ (52 - n.natAbs.log2) := Nat.two_pow_pos _
  rw [hs, he, hm, hunit, hsignificand, Nat.mul_mod_left, Nat.mul_div_cancel _ hpos,
    if_neg (fun hbits => by have := hz hbits; omega), if_neg (by omega)]
  by_cases hneg : n < 0
  · have habs : -(n.natAbs : Int) = n := by omega
    rw [if_pos hneg, if_pos rfl, habs]
  · have habs : (n.natAbs : Int) = n := by omega
    rw [if_neg hneg, if_neg (by omega), habs]

end VirtualKubelet.Go
