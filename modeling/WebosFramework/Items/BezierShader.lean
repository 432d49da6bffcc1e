import WebosFramework.Lib.Glsl

/-!
# The vertex shader of a Beziergon

`main` of `shaders/qt5/bezier.vert` and of `shaders/qt6/bezier.vert.qt6` in `Eos/Items/src`. A
vertex of the mesh has coordinates from 0 to 1, and is moved to its place on the patch between the
four curves of the `Beziergon`. Uniforms that `main` does not read are left out. The two shaders are
kept apart, as two files that are edited one by one.

**`bounded_by_curves`**: without antialiasing offset, the vertices on the edges of the mesh come to
lie on the four cubic Bezier curves, and both shaders compute the same position.

Both shaders compute a cubic curve by repeated `mix`, three times: along the upper edge, along the
lower edge and from one to the other. `patch` says this with the curves of `Lib.Bezier`, and on
the four edges of the square it comes down to one of them.
-/

namespace SamplerGeometry.BezierShader

open Glsl

/-- The uniforms that `main` reads. -/
structure Uniforms (K : Type) where
  qtMatrix : Mat4 K
  controlTopLeft : Vec2 K
  controlTopRight : Vec2 K
  controlBottomLeft : Vec2 K
  controlBottomRight : Vec2 K
  controlLeftTop : Vec2 K
  controlLeftBottom : Vec2 K
  controlRightTop : Vec2 K
  controlRightBottom : Vec2 K
  topLeft : Vec2 K
  topRight : Vec2 K
  bottomLeft : Vec2 K
  bottomRight : Vec2 K
  dest : Vec4 K
  sourceSubRect : Vec4 K

/-- The attributes of a vertex, as the mesh has them. -/
structure Attributes (K : Type) where
  vertex : Vec4 K
  /-- The antialiasing offset. -/
  texture0 : Vec2 K
  coverage : K

/-- What a vertex hands on. -/
structure Varyings (K : Type) where
  glPosition : Vec4 K
  qtTexCoord0 : Vec2 K
  qtTexCoord1 : Vec2 K
  vcoverage : K

variable {K : Type} [Field K]

namespace Qt5

/-- `main` of `bezier.vert` -/
def main (u : Uniforms K) (a : Attributes K) : Varyings K :=
  let x := a.vertex.x
  let y := a.vertex.y
  -- along the top edge
  let topP00 := mix u.topLeft u.controlTopLeft x
  let topP01 := mix u.controlTopLeft u.controlTopRight x
  let topP02 := mix u.controlTopRight u.topRight x
  let topP10 := mix topP00 topP01 x
  let topP11 := mix topP01 topP02 x
  let top := mix topP10 topP11 x
  -- along the bottom edge
  let bottomP00 := mix u.bottomLeft u.controlBottomLeft x
  let bottomP01 := mix u.controlBottomLeft u.controlBottomRight x
  let bottomP02 := mix u.controlBottomRight u.bottomRight x
  let bottomP10 := mix bottomP00 bottomP01 x
  let bottomP11 := mix bottomP01 bottomP02 x
  let bottom := mix bottomP10 bottomP11 x
  -- the control points between them are interpolated as offsets from the corners
  let topControl := top + mix (u.controlLeftTop - u.topLeft) (u.controlRightTop - u.topRight) x
  let bottomControl :=
    bottom + mix (u.controlLeftBottom - u.bottomLeft) (u.controlRightBottom - u.bottomRight) x
  -- from top to bottom
  let midP00 := mix top topControl y
  let midP01 := mix topControl bottomControl y
  let midP02 := mix bottomControl bottom y
  let midP10 := mix midP00 midP01 y
  let midP11 := mix midP01 midP02 y
  let pos := addXy (vec4 (mix midP10 midP11 y) 0 1) a.texture0
  { glPosition := u.qtMatrix.mulVec pos
    qtTexCoord0 :=
      xy u.sourceSubRect + zw u.sourceSubRect * ((xy pos - xy u.dest) / zw u.dest)
    qtTexCoord1 := a.texture0
    vcoverage := a.coverage }

end Qt5

namespace Qt6

/-- `main` of `bezier.vert.qt6`, which differs in its declarations only. -/
def main (u : Uniforms K) (a : Attributes K) : Varyings K :=
  let x := a.vertex.x
  let y := a.vertex.y
  -- along the top edge
  let topP00 := mix u.topLeft u.controlTopLeft x
  let topP01 := mix u.controlTopLeft u.controlTopRight x
  let topP02 := mix u.controlTopRight u.topRight x
  let topP10 := mix topP00 topP01 x
  let topP11 := mix topP01 topP02 x
  let top := mix topP10 topP11 x
  -- along the bottom edge
  let bottomP00 := mix u.bottomLeft u.controlBottomLeft x
  let bottomP01 := mix u.controlBottomLeft u.controlBottomRight x
  let bottomP02 := mix u.controlBottomRight u.bottomRight x
  let bottomP10 := mix bottomP00 bottomP01 x
  let bottomP11 := mix bottomP01 bottomP02 x
  let bottom := mix bottomP10 bottomP11 x
  -- the control points between them are interpolated as offsets from the corners
  let topControl := top + mix (u.controlLeftTop - u.topLeft) (u.controlRightTop - u.topRight) x
  let bottomControl :=
    bottom + mix (u.controlLeftBottom - u.bottomLeft) (u.controlRightBottom - u.bottomRight) x
  -- from top to bottom
  let midP00 := mix top topControl y
  let midP01 := mix topControl bottomControl y
  let midP02 := mix bottomControl bottom y
  let midP10 := mix midP00 midP01 y
  let midP11 := mix midP01 midP02 y
  let pos := addXy (vec4 (mix midP10 midP11 y) 0 1) a.texture0
  { glPosition := u.qtMatrix.mulVec pos
    qtTexCoord0 :=
      xy u.sourceSubRect + zw u.sourceSubRect * ((xy pos - xy u.dest) / zw u.dest)
    qtTexCoord1 := a.texture0
    vcoverage := a.coverage }

end Qt6

/-! ## The patch

The surface that the shaders are to draw, in terms of cubic curves: for each point of the upper
edge there is a curve to the lower edge, and the first and the last of them are the other two
edges. -/

open Bezier (cubic)

/-- The curve from the upper left corner to the upper right one. -/
def topEdge (u : Uniforms K) : K → Vec2 K :=
  cubic u.topLeft u.controlTopLeft u.controlTopRight u.topRight

/-- The curve from the lower left corner to the lower right one. -/
def bottomEdge (u : Uniforms K) : K → Vec2 K :=
  cubic u.bottomLeft u.controlBottomLeft u.controlBottomRight u.bottomRight

/-- The curve from the upper left corner to the lower left one. -/
def leftEdge (u : Uniforms K) : K → Vec2 K :=
  cubic u.topLeft u.controlLeftTop u.controlLeftBottom u.bottomLeft

/-- The curve from the upper right corner to the lower right one. -/
def rightEdge (u : Uniforms K) : K → Vec2 K :=
  cubic u.topRight u.controlRightTop u.controlRightBottom u.bottomRight

/-- A curve from the top edge to the bottom edge. The offsets of its control points from its ends
are between those of the left edge and those of the right edge. -/
def patch (u : Uniforms K) (s t : K) : Vec2 K :=
  cubic (topEdge u s)
    (topEdge u s + mix (u.controlLeftTop - u.topLeft) (u.controlRightTop - u.topRight) s)
    (bottomEdge u s
      + mix (u.controlLeftBottom - u.bottomLeft) (u.controlRightBottom - u.bottomRight) s)
    (bottomEdge u s) t

/-- Every curve of the patch begins on the upper edge. -/
theorem patch_top (u : Uniforms K) (s : K) : patch u s 0 = topEdge u s := by
  rw [patch, Bezier.cubic_zero]

/-- And it ends on the lower edge. -/
theorem patch_bottom (u : Uniforms K) (s : K) : patch u s 1 = bottomEdge u s := by
  rw [patch, Bezier.cubic_one]

/-- The first curve is the left edge: its offsets are those of the left control points. -/
theorem patch_left (u : Uniforms K) (t : K) : patch u 0 t = leftEdge u t := by
  have htop : topEdge u 0 = u.topLeft := Bezier.cubic_zero ..
  have hbottom : bottomEdge u 0 = u.bottomLeft := Bezier.cubic_zero ..
  rw [patch, htop, hbottom, mix_zero, mix_zero, add_sub_cancel, add_sub_cancel]
  rfl

/-- The last curve is the right edge. -/
theorem patch_right (u : Uniforms K) (t : K) : patch u 1 t = rightEdge u t := by
  have htop : topEdge u 1 = u.topRight := Bezier.cubic_one ..
  have hbottom : bottomEdge u 1 = u.bottomRight := Bezier.cubic_one ..
  rw [patch, htop, hbottom, mix_one, mix_one, add_sub_cancel, add_sub_cancel]
  rfl

/-! ## What the shaders compute

Three rounds of `mix` in the shader are the curve of four points. So `main` puts a vertex on the
patch, and the edges of the mesh on the four curves. -/

/-- `gl_Position` of a point of the item. -/
def place (u : Uniforms K) (p : Vec2 K) : Vec4 K := u.qtMatrix.mulVec (vec4 p 0 1)

/-- A vertex is placed on the patch and moved by its antialiasing offset. -/
theorem glPosition_main (u : Uniforms K) (a : Attributes K) :
    (Qt5.main u a).glPosition = place u (patch u a.vertex.x a.vertex.y + a.texture0) := by
  simp only [Qt5.main, mix_casteljau, addXy_vec4]
  rfl

/-- The shaders do the same. -/
theorem main_eq (u : Uniforms K) (a : Attributes K) : Qt5.main u a = Qt6.main u a := rfl

/-- The positions of vertices without antialiasing offset on the edges of the mesh are on the four
curves. -/
structure BoundedByCurves (main : Uniforms K → Attributes K → Varyings K) : Prop where
  top : ∀ u s z w coverage,
    (main u ⟨![s, 0, z, w], 0, coverage⟩).glPosition
      = place u (cubic u.topLeft u.controlTopLeft u.controlTopRight u.topRight s)
  bottom : ∀ u s z w coverage,
    (main u ⟨![s, 1, z, w], 0, coverage⟩).glPosition
      = place u (cubic u.bottomLeft u.controlBottomLeft u.controlBottomRight u.bottomRight s)
  left : ∀ u t z w coverage,
    (main u ⟨![0, t, z, w], 0, coverage⟩).glPosition
      = place u (cubic u.topLeft u.controlLeftTop u.controlLeftBottom u.bottomLeft t)
  right : ∀ u t z w coverage,
    (main u ⟨![1, t, z, w], 0, coverage⟩).glPosition
      = place u (cubic u.topRight u.controlRightTop u.controlRightBottom u.bottomRight t)

/-- The four edges of the square go to the four edges of the patch, whatever the other attributes
are. -/
theorem boundedByCurves_main : BoundedByCurves (Qt5.main (K := K)) where
  top u s z w coverage := by
    rw [glPosition_main, add_zero]
    exact congrArg (place u) (patch_top u s)
  bottom u s z w coverage := by
    rw [glPosition_main, add_zero]
    exact congrArg (place u) (patch_bottom u s)
  left u t z w coverage := by
    rw [glPosition_main, add_zero]
    exact congrArg (place u) (patch_left u t)
  right u t z w coverage := by
    rw [glPosition_main, add_zero]
    exact congrArg (place u) (patch_right u t)

/-- **The patch is bounded by its four curves**, and both shaders compute the same position, for
all uniforms and attributes. The offset of a vertex is zero here, as it is without antialiasing.

The shader for Qt 6 computes the same position as the one for Qt 5 by `main_eq`, so it is enough to
look at one of them. -/
theorem bounded_by_curves (K : Type) [Field K] :
    BoundedByCurves (Qt5.main (K := K)) ∧ BoundedByCurves (Qt6.main (K := K)) ∧
      ∀ (u : Uniforms K) (a : Attributes K),
        (Qt5.main u a).glPosition = (Qt6.main u a).glPosition := by
  have hsame : Qt5.main (K := K) = Qt6.main := funext fun u => funext fun a => main_eq u a
  exact ⟨boundedByCurves_main, hsame ▸ boundedByCurves_main,
    fun u a => congrArg Varyings.glPosition (main_eq u a)⟩

end SamplerGeometry.BezierShader
