import Mathlib.Data.Nat.Choose.Sum
import Mathlib.LinearAlgebra.AffineSpace.AffineMap

/-!
# Bezier curves

* `curve p n t`: the point at `t` of the curve of degree `n` with the control points `p 0` to `p n`,
  as the sum of the points with the weights of Bernstein.
* `casteljau t p n i`: `n` rounds of interpolation between neighbours, of which each leaves one
  point less.

A round is a linear map on sequences of points, the sum of two maps that commute. So `n` rounds are
its power, which the binomial theorem expands: `casteljau_eq_curve`. For a curve of degree 3 the sum
is written out in `cubic`.
-/

namespace Bezier

variable {K V : Type*} [CommRing K] [AddCommGroup V] [Module K V]

/-- The curve of Bernstein: the point at `t` is the sum of the control points, each with its
weight, and the weights are those of the binomial theorem for `1 - t` and `t`. -/
def curve (p : ℕ → V) (n : ℕ) (t : K) : V :=
  ∑ k ∈ Finset.range (n + 1), ((n.choose k : K) * (1 - t) ^ (n - k) * t ^ k) • p k

/-- The recursion of de Casteljau: each round replaces a point by the one at `t` between it and
its right neighbour. -/
def casteljau (t : K) (p : ℕ → V) : ℕ → ℕ → V
  | 0, i => p i
  | n + 1, i => AffineMap.lineMap (casteljau t p n i) (casteljau t p n (i + 1)) t

/-- The curve of degree 3, with its four weights written out. -/
def cubic (p₀ p₁ p₂ p₃ : V) (t : K) : V :=
  (1 - t) ^ 3 • p₀ + (3 * (1 - t) ^ 2 * t) • p₁ + (3 * (1 - t) * t ^ 2) • p₂ + t ^ 3 • p₃

/-- A curve starts at its first point. -/
@[simp] theorem cubic_zero (p₀ p₁ p₂ p₃ : V) : cubic p₀ p₁ p₂ p₃ (0 : K) = p₀ := by
  simp [cubic]

/-- A curve ends at its last point. -/
@[simp] theorem cubic_one (p₀ p₁ p₂ p₃ : V) : cubic p₀ p₁ p₂ p₃ (1 : K) = p₃ := by
  simp [cubic]

/-! ## One round as a linear map

A round of the algorithm is a sum of two maps that commute, the shift and the identity, each with
its weight. So `n` rounds are a power, and the binomial theorem gives the weights of the curve. -/

variable (K V) in
/-- The sequence from its second point on. -/
def shift : Module.End K (ℕ → V) where
  toFun p i := p (i + 1)
  map_add' _ _ := rfl
  map_smul' _ _ := rfl

variable (V) in
/-- One round for all points at once: a point and its shifted neighbour, with the weights `1 - t`
and `t`. -/
def round (t : K) : Module.End K (ℕ → V) := t • shift K V + (1 - t) • 1

/-- At each place a round is the interpolation of the recursion. -/
theorem round_apply (t : K) (p : ℕ → V) (i : ℕ) :
    round V t p i = AffineMap.lineMap (p i) (p (i + 1)) t := by
  rw [AffineMap.lineMap_apply_module, add_comm]
  rfl

/-- Shifting `k` times looks `k` points ahead. -/
theorem shift_pow_apply (p : ℕ → V) (k i : ℕ) : (shift K V ^ k) p i = p (i + k) := by
  induction k generalizing i with
  | zero => rfl
  | succ k ih =>
    rw [pow_succ', Module.End.mul_apply]
    show (shift K V ^ k) p (i + 1) = p (i + (k + 1))
    rw [ih, Nat.add_right_comm, Nat.add_assoc]

/-- `n` rounds of the recursion are the `n`-th power of the linear map. The induction is on `n`,
for all places at once. -/
theorem round_pow_apply (t : K) (p : ℕ → V) (n i : ℕ) :
    (round V t ^ n) p i = casteljau t p n i := by
  induction n generalizing i with
  | zero => rfl
  | succ n ih =>
    rw [pow_succ', Module.End.mul_apply, round_apply, ih, ih]
    rfl

/-- **The algorithm of de Casteljau computes the curve.** -/
theorem casteljau_eq_curve (t : K) (p : ℕ → V) (n : ℕ) : casteljau t p n 0 = curve p n t := by
  have hcommute : Commute (t • shift K V) ((1 - t) • (1 : Module.End K (ℕ → V))) :=
    ((Commute.one_right _).smul_right _).smul_left _
  rw [← round_pow_apply, round, hcommute.add_pow, curve, LinearMap.sum_apply, Finset.sum_apply]
  refine Finset.sum_congr rfl fun k _ => ?_
  rw [← nsmul_eq_mul', smul_pow, smul_pow, one_pow, mul_smul_comm, mul_one]
  show n.choose k • (1 - t) ^ (n - k) • t ^ k • (shift K V ^ k) p 0 = _
  rw [shift_pow_apply, Nat.zero_add, ← Nat.cast_smul_eq_nsmul K, smul_smul, smul_smul, mul_assoc]

/-- The sum for degree 3 is the curve that is written out. -/
theorem curve_three (p : ℕ → V) (t : K) : curve p 3 t = cubic (p 0) (p 1) (p 2) (p 3) t := by
  simp only [curve, cubic, Finset.sum_range_succ, Finset.sum_range_zero, zero_add]
  norm_num [Nat.choose]

end Bezier
