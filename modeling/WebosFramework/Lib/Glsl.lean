import Mathlib.Data.Fin.VecNotation
import Mathlib.Data.Matrix.Mul
import Mathlib.LinearAlgebra.AffineSpace.Combination
import WebosFramework.Lib.Bezier

/-!
# Vectors of shaders

The vectors and matrices of GLSL, with exact components from a field. Their operators work on the
components, as those of functions do, and a product with a matrix is `Matrix.mulVec`. Precision
qualifiers mean nothing here.

* `mix` interpolates between two vectors: it is `AffineMap.lineMap` (`mix_eq_lineMap`).
* `mix_casteljau`: three rounds of `mix` give the cubic curve of four points.
-/

namespace Glsl

/-- A `vec2`. -/
abbrev Vec2 (K : Type*) := Fin 2 → K

/-- A `vec4`. -/
abbrev Vec4 (K : Type*) := Fin 4 → K

/-- A `mat4`. It is applied to a column. -/
abbrev Mat4 (K : Type*) := Matrix (Fin 4) (Fin 4) K

section

variable {K : Type*}

/-- The first component. -/
def Vec4.x (v : Vec4 K) : K := v 0

/-- The second component. -/
def Vec4.y (v : Vec4 K) : K := v 1

/-- The first component. -/
def Vec2.x (v : Vec2 K) : K := v 0

/-- The second component. -/
def Vec2.y (v : Vec2 K) : K := v 1

/-- The third component. -/
def Vec4.z (v : Vec4 K) : K := v 2

/-- The fourth component. -/
def Vec4.w (v : Vec4 K) : K := v 3

/-- Of a color. -/
def Vec4.a (v : Vec4 K) : K := v.w

/-- The constructor from two numbers. -/
def vec2 (x y : K) : Vec2 K := ![x, y]

/-- The constructor from a vector and two numbers. -/
def vec4 (v : Vec2 K) (z w : K) : Vec4 K := ![v 0, v 1, z, w]

/-- The swizzle that takes the first two components. -/
def xy (v : Vec4 K) : Vec2 K := ![v 0, v 1]

/-- The swizzle that takes the last two components. -/
def zw (v : Vec4 K) : Vec2 K := ![v 2, v 3]

@[simp] theorem xy_vec4 (v : Vec2 K) (z w : K) : xy (vec4 v z w) = v := by
  funext i
  match i with
  | 0 => rfl
  | 1 => rfl

/-- `v.xy += d` -/
def addXy [Add K] (v : Vec4 K) (d : Vec2 K) : Vec4 K := vec4 (xy v + d) (v 2) (v 3)

@[simp] theorem addXy_vec4 [Add K] (v d : Vec2 K) (z w : K) :
    addXy (vec4 v z w) d = vec4 (v + d) z w := by
  rw [addXy, xy_vec4]
  rfl

end

variable {K : Type*} [CommRing K]

/-- `x * (1 - a) + y * a` -/
def mix (x y : Vec2 K) (a : K) : Vec2 K := fun i => x i * (1 - a) + y i * a

/-- The function of the language is the affine map of Mathlib. -/
theorem mix_eq_lineMap (x y : Vec2 K) (a : K) : mix x y a = AffineMap.lineMap x y a := by
  funext i
  rw [AffineMap.lineMap_apply_module]
  show x i * (1 - a) + y i * a = (1 - a) * x i + a * y i
  rw [mul_comm, mul_comm (y i)]

@[simp] theorem mix_zero (x y : Vec2 K) : mix x y 0 = x := by
  rw [mix_eq_lineMap, AffineMap.lineMap_apply_zero]

@[simp] theorem mix_one (x y : Vec2 K) : mix x y 1 = y := by
  rw [mix_eq_lineMap, AffineMap.lineMap_apply_one]

/-- The algorithm of de Casteljau for four points. -/
theorem mix_casteljau (a b c d : Vec2 K) (t : K) :
    mix (mix (mix a b t) (mix b c t) t) (mix (mix b c t) (mix c d t) t) t
      = Bezier.cubic a b c d t := by
  let points : ℕ → Vec2 K
    | 0 => a
    | 1 => b
    | 2 => c
    | _ => d
  simp only [mix_eq_lineMap]
  show Bezier.casteljau t points 3 0 = _
  rw [Bezier.casteljau_eq_curve, Bezier.curve_three]
  rfl

end Glsl
