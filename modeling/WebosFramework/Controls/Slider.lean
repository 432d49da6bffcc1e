import Mathlib.Data.Rat.Floor
import Mathlib.Tactic.FieldSimp
import Mathlib.Tactic.Positivity
import WebosFramework.Qt.Rectangles

/-!
# The slider

`Slider` of `Eos/Controls`. The handle is placed in the groove, which begins and ends half the
height of the slider inside it, and the value is read back from the place of the handle.

* Numbers are exact. A division by zero has no result.
* The two directions do not agree: the handle is placed in the width of the groove, and read in that
  of the slider. Both take the difference of the absolute values of the limits for the range, and
  neither takes the lower limit off the value. **`inverse_iff`** says what is left.

That the value is read back is a fact about one number: the quotient of the widths, by which the
value is too small, must not take it below the next integer (`truncate_readBack_iff`).
-/

namespace Eos

open Qt

/-- `value`, `minValue` and `maxValue` are an `int` each. -/
structure Slider (K : Type) where
  minValue : Int := 0
  maxValue : Int := 100
  value : Int := 50
  width : K
  height : K

variable {K : Type} [Field K] [LinearOrder K]

/-- A division, which has no result if the divisor is zero. -/
def divide (a b : K) : Option K := if b = 0 then none else some (a / b)

namespace Slider

variable (s : Slider K)

/-- The width of `sliderGroove`, between its two margins. -/
def grooveWidth : K := s.width - s.height / (2 : Nat) - s.height / (2 : Nat)

/-- The range, as the source computes it. -/
def range : Int := |s.maxValue| - |s.minValue|

/-- `x` of `handleWrapper`, for a value. -/
def handleX (value : Int) : Option K :=
  (divide (value : K) (s.range : K)).map fun ratio => s.grooveWidth * ratio

/-- `internal.currentValue`, for the place of the handle. -/
def currentValue [FloorRing K] (x : K) : Option Int :=
  (divide x s.width).map fun ratio => truncate (ratio * (s.range : K))

/-- The handle is placed in the groove, from one end to the other, and the value is read back. -/
def Inverse [FloorRing K] : Prop :=
  ∃ x, s.handleX s.value = some x ∧ 0 ≤ x ∧ x ≤ s.grooveWidth ∧
    s.handleX s.minValue = some 0 ∧ s.handleX s.maxValue = some s.grooveWidth ∧
      s.currentValue x = some s.value

/-! ## The handle

Where the handle is for a value. The arithmetic is exact, and a division has no result if the
divisor is zero. -/

section Handle

variable {s} {value : Int} {x : K}

/-- Where the handle is, if the range is not zero. -/
theorem handleX_eq_some : s.handleX value = some x ↔
    (s.range : K) ≠ 0 ∧ s.grooveWidth * (value / s.range) = x := by
  unfold handleX divide
  split
  · rename_i hzero
    simp [hzero]
  · rename_i hne
    simp [hne]

/-- What is read from a place, if the slider has a width. -/
theorem currentValue_eq_some [FloorRing K] :
    s.currentValue x = some value ↔ s.width ≠ 0 ∧ truncate (x / s.width * s.range) = value := by
  unfold currentValue divide
  split
  · rename_i hzero
    simp [hzero]
  · rename_i hne
    simp [hne]

omit [Field K] [LinearOrder K] in
/-- With a lower limit of 0 the range is the upper one. -/
theorem range_of_zero (hmin : s.minValue = 0) (hlt : s.minValue < s.maxValue) :
    s.range = s.maxValue := by
  unfold range
  rw [hmin, abs_zero, sub_zero]
  exact abs_of_pos (hmin ▸ hlt)

variable [IsStrictOrderedRing K]

/-- The two halves are the height. -/
theorem grooveWidth_eq : s.grooveWidth = s.width - s.height := by
  unfold grooveWidth
  rw [sub_sub, Nat.cast_ofNat, add_halves]

/-- A slider that is wider than high has a groove. -/
theorem grooveWidth_pos (hsize : s.height < s.width) : 0 < s.grooveWidth := by
  rw [grooveWidth_eq]
  exact sub_pos.mpr hsize

/-- Only a slider that begins at 0 has its handle at the left end for the lower limit. -/
theorem minValue_eq_zero (hsize : s.height < s.width) (hleft : s.handleX s.minValue = some 0) :
    s.minValue = 0 := by
  obtain ⟨hrange, hzero⟩ := handleX_eq_some.mp hleft
  simpa [(grooveWidth_pos hsize).ne', hrange] using hzero

/-- Where the handle of a slider that begins at 0 is. -/
theorem handleX_of_zero (hmin : s.minValue = 0) (hlt : s.minValue < s.maxValue) (value : Int) :
    s.handleX value = some (s.grooveWidth * (value / s.maxValue)) := by
  have hmax : (s.maxValue : K) ≠ 0 := by
    have hpos : 0 < s.maxValue := hmin ▸ hlt
    exact Int.cast_ne_zero.mpr hpos.ne'
  rw [handleX_eq_some, range_of_zero hmin hlt]
  exact ⟨hmax, rfl⟩

end Handle

/-! ## Reading the value back

What is read back is cut off to an integer, and may fall short of the value. The condition says by
how much it may. -/

/-- What is read back falls short by the part of the value that the height is of the width. Cut to a
number it is the value again only if it does not fall short, and exceeds the value by less than one.
-/
theorem truncate_readBack_iff [IsStrictOrderedRing K] [FloorRing K] {width height : K} {n : Int}
    (hn : 0 ≤ n) (hsize : height < width) (hwidth : width ≠ 0) :
    truncate (n * ((width - height) / width)) = n ↔
      n = 0 ∨ height ≤ 0 ∧ n * -height < width := by
  rcases hn.eq_or_lt with rfl | hpos
  · simp
  have hn' : (0 : K) < n := Int.cast_pos.mpr hpos
  have hvalue : (n : K) * ((width - height) / width) = n - n * height / width := by
    field_simp
  rw [truncate_eq_iff_of_pos hpos, hvalue, or_iff_right hpos.ne']
  constructor
  · -- the product is read back: it is not above the value and less than one below it
    rintro ⟨hle, hlt⟩
    have hnonpos : n * height / width ≤ 0 := by linarith
    have hwidth' : 0 < width := by
      by_contra hneg
      have hneg' : width < 0 := lt_of_le_of_ne (not_lt.mp hneg) hwidth
      have hpos' : 0 < n * height / width :=
        div_pos_of_neg_of_neg (mul_neg_of_pos_of_neg hn' (hsize.trans hneg')) hneg'
      linarith
    refine ⟨?_, ?_⟩
    · by_contra hheight
      have hpos' : 0 < n * height / width :=
        div_pos (mul_pos hn' (not_le.mp hheight)) hwidth'
      linarith
    · have hshort : -1 < n * height / width := by linarith
      rw [lt_div_iff₀ hwidth'] at hshort
      linarith
  · -- a height that is not positive puts the product above the value, by less than one
    rintro ⟨hheight, hlt⟩
    have hexcess : 0 ≤ n * -height := mul_nonneg hn'.le (neg_nonneg.mpr hheight)
    have hwidth' : 0 < width := lt_of_le_of_lt hexcess hlt
    have hnonpos : n * height / width ≤ 0 :=
      div_nonpos_of_nonpos_of_nonneg (mul_nonpos_of_nonneg_of_nonpos hn'.le hheight) hwidth'.le
    have hshort : -1 < n * height / width := by
      rw [lt_div_iff₀ hwidth']
      linarith
    exact ⟨by linarith, by linarith⟩

variable [IsStrictOrderedRing K] [FloorRing K]

/-- **Place and value.** In every slider with a value between its limits that is wider than it is
high: the handle goes from one end of the groove to the other and the value is read back from it,
exactly when the limits begin at 0 and the value is not cut, that is, when it is 0 or the height
does not count. -/
theorem inverse_iff (s : Slider K) (hlt : s.minValue < s.maxValue) (hmin : s.minValue ≤ s.value)
    (hmax : s.value ≤ s.maxValue) (hsize : s.height < s.width) :
    s.Inverse ↔ s.minValue = 0 ∧ s.width ≠ 0 ∧
      (s.value = 0 ∨ s.height ≤ 0 ∧ s.value * -s.height < s.width) := by
  have hgroove := grooveWidth_pos hsize
  -- what is read back, if the limits begin at 0
  have hback : s.minValue = 0 → s.width ≠ 0 →
      (s.currentValue (s.grooveWidth * (s.value / s.maxValue)) = some s.value ↔
        s.value = 0 ∨ s.height ≤ 0 ∧ s.value * -s.height < s.width) := by
    intro hzero hwidth
    have hmaxValue : (s.maxValue : K) ≠ 0 := Int.cast_ne_zero.mpr (by omega)
    have hplace : s.grooveWidth * (s.value / s.maxValue) / s.width * s.maxValue =
        s.value * ((s.width - s.height) / s.width) := by
      rw [grooveWidth_eq]
      field_simp
    rw [currentValue_eq_some, range_of_zero hzero hlt, hplace, and_iff_right hwidth]
    exact truncate_readBack_iff (by omega) hsize hwidth
  constructor
  -- the place shown for the least value is the left end, which the limits must allow
  · rintro ⟨x, hplace, -, -, hleft, -, hvalue⟩
    have hzero := minValue_eq_zero hsize hleft
    have hwidth := (currentValue_eq_some.mp hvalue).1
    rw [handleX_of_zero hzero hlt] at hplace
    cases hplace
    exact ⟨hzero, hwidth, (hback hzero hwidth).mp hvalue⟩
  -- with limits from 0 on the two directions are division and multiplication by the same length
  · rintro ⟨hzero, hwidth, hcut⟩
    have hpos : (0 : K) < s.maxValue := Int.cast_pos.mpr (by omega)
    have hvalue : (0 : K) ≤ s.value := Int.cast_nonneg (by omega)
    have hle : (s.value : K) / s.maxValue ≤ 1 := by
      rw [div_le_one hpos]
      exact Int.cast_le.mpr hmax
    refine ⟨_, handleX_of_zero hzero hlt s.value, ?_, ?_, ?_, ?_, (hback hzero hwidth).mpr hcut⟩
    · exact mul_nonneg hgroove.le (div_nonneg hvalue hpos.le)
    · exact mul_le_of_le_one_right hgroove.le hle
    · rw [handleX_of_zero hzero hlt, hzero, Int.cast_zero, zero_div, mul_zero]
    · rw [handleX_of_zero hzero hlt, div_self hpos.ne', mul_one]

/-- A slider without height. -/
theorem inverse_flat : (⟨0, 100, 50, 200, 0⟩ : Slider ℚ).Inverse :=
  (inverse_iff (⟨0, 100, 50, 200, 0⟩ : Slider ℚ) (by decide) (by decide) (by decide)
    (by norm_num)).mpr (by norm_num)

/-- The slider as it is by default has its handle in the middle, and reads 35 for 50. -/
theorem not_inverse_default :
    (⟨0, 100, 50, 200, 60⟩ : Slider ℚ).handleX 50 = some 70 ∧
      (⟨0, 100, 50, 200, 60⟩ : Slider ℚ).currentValue 70 = some 35 ∧
      ¬ (⟨0, 100, 50, 200, 60⟩ : Slider ℚ).Inverse := by
  have hplace : (⟨0, 100, 50, 200, 60⟩ : Slider ℚ).handleX 50 = some 70 := by decide +kernel
  have hvalue : (⟨0, 100, 50, 200, 60⟩ : Slider ℚ).currentValue 70 = some 35 := by decide +kernel
  refine ⟨hplace, hvalue, ?_⟩
  rintro ⟨x, hplace', -, -, -, -, hvalue'⟩
  cases hplace.symm.trans hplace'
  cases hvalue.symm.trans hvalue'

end Slider

end Eos
