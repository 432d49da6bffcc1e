import Mathlib.Algebra.Group.Int.Defs
import Mathlib.Algebra.Group.Nat.Defs

/-!
# Checked conversions

The conversions of `include/securecoding.h` that replace a value by the nearest bound of its new
type where it does not fit. A value is an `Int`, and the warnings are left out. `checkIntUpper` and
`checkIntLower` are called as `checkIntMax` and `checkIntMin`, and check one bound each.

A value that fits is not changed: `checkIntUpper_of_fits` and the theorems after it.
-/

namespace SecureCoding

/-- The upper bound of `int`. -/
def INT_MAX : Int := 2147483647

/-- The lower bound of `int`. -/
def INT_MIN : Int := -2147483648

/-- The upper bound of `unsigned short`. -/
def USHRT_MAX : Int := 65535

/-- `static_cast<int32_t>` of a wider value -/
def castInt (val : Int) : Int := val.bmod (2 ^ 32)

/-- `int2ushort`. -/
def int2ushort (val : Int) : UInt16 :=
  if val > USHRT_MAX then 65535 else if val < 0 then 0 else UInt16.ofInt val

/-- `int2uint`. There is no upper bound to check. -/
def int2uint (val : Int) : UInt32 := if val < 0 then 0 else UInt32.ofInt val

/-- The product is taken in `double`. It is compared as the exact one is, since the bounds are
exact, and a product between them is exact. -/
def multiplicationInt (a b : Int) : Int :=
  let result := a * b
  if result > INT_MAX then INT_MAX else if result < INT_MIN then INT_MIN else result

/-- `checkIntMax`, which checks the upper bound. -/
def checkIntUpper (val : Int) : Int := if val > INT_MAX then INT_MAX else castInt val

/-- `checkIntMin`, which checks the lower one. -/
def checkIntLower (val : Int) : Int := if val < INT_MIN then INT_MIN else castInt val

variable {val : Int}

/-- What is not negative is not too small. -/
theorem INT_MIN_le (h : 0 ≤ val) : INT_MIN ≤ val :=
  Int.le_trans (by decide) h

/-- A value that fits is kept by a conversion without a check. -/
theorem castInt_of_fits (hmin : INT_MIN ≤ val) (hmax : val ≤ INT_MAX) : castInt val = val := by
  simp only [INT_MIN, INT_MAX] at hmin hmax
  exact Int.bmod_eq_of_le (by omega) (by omega)

/-- A value that fits is kept by the check of the upper bound. -/
theorem checkIntUpper_of_fits (hmin : INT_MIN ≤ val) (hmax : val ≤ INT_MAX) :
    checkIntUpper val = val := by
  rw [checkIntUpper, if_neg (by omega), castInt_of_fits hmin hmax]

/-- It is kept by the check of the lower bound. -/
theorem checkIntLower_of_fits (hmin : INT_MIN ≤ val) (hmax : val ≤ INT_MAX) :
    checkIntLower val = val := by
  rw [checkIntLower, if_neg (by omega), castInt_of_fits hmin hmax]

/-- A product that fits is kept by the multiplication. -/
theorem multiplicationInt_of_fits {a b : Int} (hmin : INT_MIN ≤ a * b) (hmax : a * b ≤ INT_MAX) :
    multiplicationInt a b = a * b := by
  show (if a * b > INT_MAX then INT_MAX else if a * b < INT_MIN then INT_MIN else a * b) = a * b
  rw [if_neg (by omega), if_neg (by omega)]

/-- The conversion without a check. -/
theorem toNat_ofInt (val : Int) : ((UInt16.ofInt val).toNat : Int) = val % 2 ^ 16 := by
  rw [UInt16.ofInt, UInt16.toNat_ofNat']
  omega

/-- A value that fits is kept by the conversion to `unsigned short`. -/
theorem toNat_int2ushort (hmin : 0 ≤ val) (hmax : val ≤ USHRT_MAX) :
    ((int2ushort val).toNat : Int) = val := by
  simp only [USHRT_MAX] at hmax
  rw [int2ushort, if_neg (by show ¬ val > 65535; omega), if_neg (by omega), toNat_ofInt]
  omega

end SecureCoding
