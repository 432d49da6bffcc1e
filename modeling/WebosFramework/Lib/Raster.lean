import Mathlib.Algebra.Order.Field.Basic
import Mathlib.Tactic.FieldSimp
import Mathlib.Tactic.Linarith
import Mathlib.Tactic.Ring

/-!
# Points of a triangle

A triangle is drawn point by point. A point is known by its barycentric `Weights`, and what the
three vertices have is mixed by them: the coordinates and whatever a shader hands on. Coordinates
come from an ordered field, so the sides belong to the triangle and there is no rounding.

* `le_mix`, `mix_le`: a mixture lies between bounds of the three values, and `mix_affine`: affine
  maps may be applied before or after.
* `mem_parallelogram_iff`: two triangles with a common side, of which one is the other turned
  around, make up the parallelogram on two sides of the first one.
* `forall_mix_le_iff`: a bound that holds of all points where a nonnegative cover does not vanish
  holds of the whole triangle, as long as the cover does not vanish everywhere.
-/

namespace Raster

variable {K : Type*} [Field K] [LinearOrder K]

/-- A point of a triangle: three weights that are not negative and sum up to one. -/
structure Weights (K : Type*) [Field K] [LinearOrder K] where
  a : K
  b : K
  c : K
  nonneg_a : 0 ≤ a
  nonneg_b : 0 ≤ b
  nonneg_c : 0 ≤ c
  sum_eq : a + b + c = 1

namespace Weights

variable (w : Weights K) {x y z lo hi : K}

/-- The value at the point, from those at the vertices. -/
def mix (x y z : K) : K := w.a * x + w.b * y + w.c * z

/-- An affine map of the values is one of the mixture, since the weights sum up to one. -/
theorem mix_affine (m n x y z : K) :
    w.mix (m * x + n) (m * y + n) (m * z + n) = m * w.mix x y z + n := by
  have hsum : w.mix (m * x + n) (m * y + n) (m * z + n)
      = m * w.mix x y z + (w.a + w.b + w.c) * n := by
    simp only [mix]
    ring
  rw [hsum, w.sum_eq, one_mul]

/-- Equal values are mixed to the same value. -/
theorem mix_self (x : K) : w.mix x x x = x := by
  rw [mix, ← add_mul, ← add_mul, w.sum_eq, one_mul]

variable [IsStrictOrderedRing K]

/-- Greater values have a greater mixture. -/
theorem mix_mono {x' y' z' : K} (hx : x ≤ x') (hy : y ≤ y') (hz : z ≤ z') :
    w.mix x y z ≤ w.mix x' y' z' := by
  have ha := mul_le_mul_of_nonneg_left hx w.nonneg_a
  have hb := mul_le_mul_of_nonneg_left hy w.nonneg_b
  have hc := mul_le_mul_of_nonneg_left hz w.nonneg_c
  show w.a * x + w.b * y + w.c * z ≤ w.a * x' + w.b * y' + w.c * z'
  linarith

/-- A bound from above on all three is one on the mixture. -/
theorem mix_le (hx : x ≤ hi) (hy : y ≤ hi) (hz : z ≤ hi) : w.mix x y z ≤ hi :=
  (w.mix_mono hx hy hz).trans_eq (w.mix_self hi)

/-- A bound from below likewise. -/
theorem le_mix (hx : lo ≤ x) (hy : lo ≤ y) (hz : lo ≤ z) : lo ≤ w.mix x y z :=
  (w.mix_self lo).symm.trans_le (w.mix_mono hx hy hz)

/-- Towards the second corner from the first one. -/
def along (t : K) (h0 : 0 ≤ t) (h1 : t ≤ 1) : Weights K where
  a := 1 - t
  b := t
  c := 0
  nonneg_a := sub_nonneg.mpr h1
  nonneg_b := h0
  nonneg_c := le_rfl
  sum_eq := by ring

@[simp] theorem mix_along (t : K) (h0 : 0 ≤ t) (h1 : t ≤ 1) :
    (along t h0 h1).mix x y z = x + t * (y - x) := by
  simp only [along, mix]
  ring

/-- The weights for the same point when the corners are counted from the next one on. -/
def rotate : Weights K where
  a := w.b
  b := w.c
  c := w.a
  nonneg_a := w.nonneg_b
  nonneg_b := w.nonneg_c
  nonneg_c := w.nonneg_a
  sum_eq := by
    have hsum := w.sum_eq
    linarith

/-- The order of the vertices may be rotated. -/
theorem mix_rotate (x y z : K) : w.rotate.mix y z x = w.mix x y z := by
  simp only [rotate, mix]
  ring

/-- The weights when the last two corners change places. -/
def swap : Weights K where
  a := w.a
  b := w.c
  c := w.b
  nonneg_a := w.nonneg_a
  nonneg_b := w.nonneg_c
  nonneg_c := w.nonneg_b
  sum_eq := by
    have hsum := w.sum_eq
    linarith

/-- Two vertices may be swapped. -/
theorem mix_swap (x y z : K) : w.swap.mix x z y = w.mix x y z := by
  simp only [swap, mix]
  ring

end Weights

variable [IsStrictOrderedRing K]

/-! ## Parallelograms

Two triangles that share a side, of which one is the other turned around. -/

/-- The part that `d` is of `e`. -/
theorem exists_mul_eq {d e : K} (h0 : 0 ≤ d) (h1 : d ≤ e) : ∃ s, (0 ≤ s ∧ s ≤ 1) ∧ d = s * e := by
  by_cases he : e = 0
  · refine ⟨0, ⟨le_rfl, zero_le_one⟩, ?_⟩
    linarith
  · have hpos : 0 < e := lt_of_le_of_ne (h0.trans h1) (Ne.symm he)
    exact ⟨d / e, ⟨div_nonneg h0 hpos.le, (div_le_one hpos).mpr h1⟩, (div_mul_cancel₀ d he).symm⟩

/-- The corners are `a`, `b`, `c` and the one opposite of `a`. The two triangles have the side
between `b` and `c` in common, and a point of the parallelogram is in one or the other. -/
theorem mem_parallelogram_iff (ax ay bx by' cx cy px py : K) :
    ((∃ w : Weights K, px = w.mix ax bx cx ∧ py = w.mix ay by' cy) ∨
      ∃ w : Weights K, px = w.mix bx (bx + cx - ax) cx ∧ py = w.mix by' (by' + cy - ay) cy) ↔
    ∃ s t : K, (0 ≤ s ∧ s ≤ 1) ∧ (0 ≤ t ∧ t ≤ 1) ∧
      px = ax + s * (bx - ax) + t * (cx - ax) ∧ py = ay + s * (by' - ay) + t * (cy - ay) := by
  constructor
  · -- each triangle lies in the parallelogram: its weights give the two coordinates
    rintro (⟨w, rfl, rfl⟩ | ⟨w, rfl, rfl⟩)
    · have hsum : w.a = 1 - w.b - w.c := by linarith [w.sum_eq]
      refine ⟨w.b, w.c, ⟨w.nonneg_b, ?_⟩, ⟨w.nonneg_c, ?_⟩, ?_, ?_⟩
      · linarith [w.nonneg_a, w.nonneg_c]
      · linarith [w.nonneg_a, w.nonneg_b]
      · rw [Weights.mix, hsum]; ring
      · rw [Weights.mix, hsum]; ring
    · have hsum : w.b = 1 - w.a - w.c := by linarith [w.sum_eq]
      refine ⟨1 - w.c, 1 - w.a, ⟨?_, ?_⟩, ⟨?_, ?_⟩, ?_, ?_⟩
      · linarith [w.nonneg_a, w.nonneg_b]
      · linarith [w.nonneg_c]
      · linarith [w.nonneg_b, w.nonneg_c]
      · linarith [w.nonneg_a]
      · rw [Weights.mix, hsum]; ring
      · rw [Weights.mix, hsum]; ring
  · rintro ⟨s, t, ⟨hs0, hs1⟩, ⟨ht0, ht1⟩, rfl, rfl⟩
    -- the diagonal between `b` and `c` decides
    rcases le_total (s + t) 1 with hst | hst
    · refine .inl ⟨⟨1 - s - t, s, t, by linarith, hs0, ht0, by ring⟩, ?_, ?_⟩
      · rw [Weights.mix]; ring
      · rw [Weights.mix]; ring
    · refine .inr ⟨⟨1 - t, s + t - 1, 1 - s, by linarith, by linarith, by linarith, by ring⟩,
        ?_, ?_⟩
      · rw [Weights.mix]; ring
      · rw [Weights.mix]; ring

/-! ## Points that are covered

A bound on all points with a cover extends to points without one, by a limit along a side: the
bound would otherwise fail close to the end of the side, where there still is a cover. -/

section Covered

variable {x y z k l m b : K}

/-- From a covered corner, all of a side but its other end is covered. So a bound on what is covered
is one on that end as well, which is as close as one likes. -/
theorem le_of_along (hk : 0 ≤ k) (hl : 0 < l)
    (h : ∀ w : Weights K, 0 < w.mix k l m → w.mix x y z ≤ b) : x ≤ b := by
  by_contra hx
  have hx : b < x := not_le.mp hx
  have hend : y ≤ b := by
    have hcorner := h (.along 1 zero_le_one le_rfl) (by simpa using hl)
    simpa using hcorner
  -- a point of the side that is near enough to its other end
  have hxy : 0 < x - y := by linarith
  let t : K := (x - b) / (2 * (x - y))
  have ht0 : 0 < t := by
    apply div_pos
    · linarith
    · linarith
  have ht1 : t ≤ 1 := by
    show (x - b) / (2 * (x - y)) ≤ 1
    rw [div_le_one (by linarith)]
    linarith
  have hcovered : 0 < (Weights.along t ht0.le ht1).mix k l m := by
    rw [Weights.mix_along]
    have hk' : 0 ≤ (1 - t) * k := mul_nonneg (by linarith) hk
    have hl' : 0 < t * l := mul_pos ht0 hl
    linarith
  have hbound := h _ hcovered
  rw [Weights.mix_along] at hbound
  have hstep : t * (y - x) = -(x - b) / 2 := by
    show (x - b) / (2 * (x - y)) * (y - x) = _
    have hne : x - y ≠ 0 := hxy.ne'
    field_simp
    ring
  rw [hstep] at hbound
  linarith

/-- The first corner, whichever corner is covered. -/
theorem le_of_covered (hk : 0 ≤ k) (hsome : 0 < k ∨ 0 < l ∨ 0 < m)
    (h : ∀ w : Weights K, 0 < w.mix k l m → w.mix x y z ≤ b) : x ≤ b := by
  rcases hsome with hk' | hl' | hm'
  · have hcorner := h (.along 0 le_rfl zero_le_one) (by simpa using hk')
    simpa using hcorner
  · exact le_of_along hk hl' h
  · refine le_of_along (y := z) (z := y) (l := m) (m := l) hk hm' fun w hw => ?_
    rw [← Weights.mix_swap]
    exact h w.swap (by rwa [Weights.mix_swap])

/-- **Covered points** of a triangle are bounded just in case its corners are. -/
theorem forall_mix_le_iff (hk : 0 ≤ k) (hl : 0 ≤ l) (hm : 0 ≤ m) (hsome : 0 < k ∨ 0 < l ∨ 0 < m) :
    (∀ w : Weights K, 0 < w.mix k l m → w.mix x y z ≤ b) ↔ x ≤ b ∧ y ≤ b ∧ z ≤ b := by
  constructor
  · intro h
    refine ⟨le_of_covered hk hsome h, ?_, ?_⟩
    · refine le_of_covered (y := z) (z := x) (l := m) (m := k) hl (by tauto) fun w hw => ?_
      rw [← w.mix_rotate, ← w.rotate.mix_rotate]
      exact h _ (by rwa [w.rotate.mix_rotate, w.mix_rotate])
    · refine le_of_covered (y := x) (z := y) (l := k) (m := l) hm (by tauto) fun w hw => ?_
      rw [← w.mix_rotate]
      exact h _ (by rwa [w.mix_rotate])
  · rintro ⟨hx, hy, hz⟩ w -
    exact w.mix_le hx hy hz

/-- The same for a lower bound. -/
theorem forall_le_mix_iff (hk : 0 ≤ k) (hl : 0 ≤ l) (hm : 0 ≤ m)
    (hsome : 0 < k ∨ 0 < l ∨ 0 < m) :
    (∀ w : Weights K, 0 < w.mix k l m → b ≤ w.mix x y z) ↔ b ≤ x ∧ b ≤ y ∧ b ≤ z := by
  have hneg (w : Weights K) : w.mix (-x) (-y) (-z) = -w.mix x y z := by
    simp only [Weights.mix]
    ring
  have h := forall_mix_le_iff (x := -x) (y := -y) (z := -z) (b := -b) hk hl hm hsome
  simpa only [hneg, neg_le_neg_iff] using h

end Covered

end Raster
