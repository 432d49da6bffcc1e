import WebosFramework.Items.BezierShader
import WebosFramework.Items.BeziergonMesh
import WebosFramework.Items.TexturePlacement

/-!
# The shader of a sampled Beziergon

`Beziergon::createSampledMaterial` takes the fast fragment shader if `dest` contains the rectangle
of the window. The shape itself is not compared with `dest`, as its points are animated all the
time.

* The item has the coordinates of the window, and lies in it as it is.
* `bezier.vert.qt6` places the vertices of the body and of the fringe.

**`createsSimple_iff`**: unless the item clamps to the edge, it takes the fast shader just in case
no shape, resolution, texture or color makes a difference within the window.

Both fragment shaders sample alike, and differ only where a fragment is outside of `dest`
(`Items.SamplerShader`). For the choice to make no difference, `dest` has to hold every place of
the window that something may be drawn at; and a shape that has shrunk to a point may be drawn at
any.
-/

namespace SamplerGeometry.BezierSampler

open Glsl Qt Raster SamplerShader

variable {K : Type} [Field K]

/-- The rectangle of the window, in its own coordinates. -/
def windowRect (window : QSize) : QRectF K := ⟨0, 0, window.width, window.height⟩

/-- `Beziergon::createSampledMaterial`, with the size of the window that the item is in. -/
def createSampledMaterial [LinearOrder K] (dest : QRectF K) (clampToEdge : Bool)
    (window : Option QSize) : Option SampledMaterialType :=
  window.map fun window =>
    if dest.contains (windowRect window) || clampToEdge then .simpleSampledMaterial
    else .sampledMaterial

/-! ## The vertex stage

A vertex is put on the patch and moved by its offset. Its texture coordinate follows from the
place that it gets, and a shape that has shrunk to a point puts all vertices to the same place. -/

/-- A point as the shader reads it. -/
def toVec2 (p : QPointF K) : Vec2 K := vec2 p.x p.y

/-- The two stages read one block. -/
def vertexUniforms (u : Uniforms K) (point : BezierPoint → QPointF K) : BezierShader.Uniforms K where
  qtMatrix := u.qtMatrix
  controlTopLeft := toVec2 (point .controlTopLeft)
  controlTopRight := toVec2 (point .controlTopRight)
  controlBottomLeft := toVec2 (point .controlBottomLeft)
  controlBottomRight := toVec2 (point .controlBottomRight)
  controlLeftTop := toVec2 (point .controlLeftTop)
  controlLeftBottom := toVec2 (point .controlLeftBottom)
  controlRightTop := toVec2 (point .controlRightTop)
  controlRightBottom := toVec2 (point .controlRightBottom)
  topLeft := toVec2 (point .topLeft)
  topRight := toVec2 (point .topRight)
  bottomLeft := toVec2 (point .bottomLeft)
  bottomRight := toVec2 (point .bottomRight)
  dest := u.dest
  sourceSubRect := u.sourceSubRect

/-- A vertex as the shader reads it. -/
def attributes (v : Vertex K) : BezierShader.Attributes K where
  vertex := vec4 (vec2 v.x v.y) 0 1
  texture0 := vec2 v.tx v.ty
  coverage := v.coverage

/-- The vertex stage, with what the fragment stages read of it. -/
def vertexMain (u : Uniforms K) (point : BezierPoint → QPointF K) (v : Vertex K) : Varyings K :=
  let out := BezierShader.Qt6.main (vertexUniforms u point) (attributes v)
  { glPosition := out.glPosition, qtTexCoord0 := out.qtTexCoord0, vcoverage := out.vcoverage }

/-- Where a vertex comes to lie within the item. -/
def vertexPlace (u : Uniforms K) (point : BezierPoint → QPointF K) (v : Vertex K) : QPointF K :=
  let p := BezierShader.patch (vertexUniforms u point) v.x v.y + vec2 v.tx v.ty
  ⟨p.x, p.y⟩

/-- The place of a vertex is where the patch puts it, moved by its offset. -/
theorem toVec2_vertexPlace (u : Uniforms K) (point : BezierPoint → QPointF K) (v : Vertex K) :
    toVec2 (vertexPlace u point v) =
      BezierShader.patch (vertexUniforms u point) v.x v.y + vec2 v.tx v.ty := by
  rw [Picture.eq_vec2 (p := _ + _) rfl rfl]
  rfl

/-- The texture coordinate of a vertex follows from its place. -/
theorem qtTexCoord0_vertexMain (u : Uniforms K) (point : BezierPoint → QPointF K) (v : Vertex K) :
    (vertexMain u point v).qtTexCoord0 =
      xy u.sourceSubRect + zw u.sourceSubRect *
        ((toVec2 (vertexPlace u point v) - xy u.dest) / zw u.dest) := by
  rw [toVec2_vertexPlace]
  simp only [vertexMain, BezierShader.Qt6.main, mix_casteljau, addXy_vec4, xy_vec4]
  rfl

/-- A curve whose points are one point. -/
theorem cubic_const (p : Vec2 K) (t : K) : Bezier.cubic p p p p t = p := by
  unfold Bezier.cubic
  rw [← add_smul, ← add_smul, ← add_smul]
  convert one_smul K p
  ring

/-- A shape that has shrunk to a point. -/
theorem vertexPlace_const (u : Uniforms K) (p : QPointF K) {v : Vertex K} (htx : v.tx = 0)
    (hty : v.ty = 0) : vertexPlace u (fun _ => p) v = p := by
  have hpatch : BezierShader.patch (vertexUniforms u fun _ => p) v.x v.y = toVec2 p := by
    have hedge (t : K) : Bezier.cubic (toVec2 p) (toVec2 p) (toVec2 p) (toVec2 p) t = toVec2 p :=
      cubic_const _ t
    simp only [BezierShader.patch, BezierShader.topEdge, BezierShader.bottomEdge, vertexUniforms,
      hedge, sub_self, mix_eq_lineMap, AffineMap.lineMap_same_apply, add_zero]
  have hzero : (vec2 v.tx v.ty : Vec2 K) = 0 := by
    rw [htx, hty, Picture.eq_vec2 (p := (0 : Vec2 K)) rfl rfl]
    rfl
  unfold vertexPlace
  rw [hpatch, hzero, add_zero]
  rfl

/-! ## Fragments

A fragment is a mixture of three vertices. The plain fragment shader asks whether it lies outside
of `dest`, in the coordinates of the texture. -/

variable [LinearOrder K]

/-- The body, and the fringe if there is one. -/
def drawnTriangles (K : Type) [Field K] (resolution : QPoint) (antialiasing : Bool) :
    List (Vertex K × Vertex K × Vertex K) :=
  (Beziergon.generateBodyGeometry resolution antialiasing).elim [] (·.triangles) ++
    if antialiasing then (Beziergon.generateFringeGeometry resolution).elim [] (·.triangles) else []

/-- What a fragment of a triangle gets from the vertex shader. -/
def fragment (u : Uniforms K) (point : BezierPoint → QPointF K)
    (t : Vertex K × Vertex K × Vertex K) (w : Weights K) : Varyings K :=
  let v0 := vertexMain u point t.1
  let v1 := vertexMain u point t.2.1
  let v2 := vertexMain u point t.2.2
  { glPosition := fun i => w.mix (v0.glPosition i) (v1.glPosition i) (v2.glPosition i)
    qtTexCoord0 := fun i => w.mix (v0.qtTexCoord0 i) (v1.qtTexCoord0 i) (v2.qtTexCoord0 i)
    vcoverage := w.mix v0.vcoverage v1.vcoverage v2.vcoverage }

/-- Where the fragment is. -/
def fragmentPlace (u : Uniforms K) (point : BezierPoint → QPointF K)
    (t : Vertex K × Vertex K × Vertex K) (w : Weights K) : QPointF K :=
  let p0 := vertexPlace u point t.1
  let p1 := vertexPlace u point t.2.1
  let p2 := vertexPlace u point t.2.2
  ⟨w.mix p0.x p1.x p2.x, w.mix p0.y p1.y p2.y⟩

/-- Whatever is drawn, the two fragment shaders give every fragment within the window the same
color. -/
def SameInWindow (dest : QRectF K) (window : QSize) : Prop :=
  ∀ (u : Uniforms K) point resolution antialiasing (source : Sampler2D K),
    0 < u.sourceSubRect.z → 0 < u.sourceSubRect.w → Premultiplied u.color →
    ∀ t ∈ drawnTriangles K resolution antialiasing, ∀ w : Weights K,
      let u := withDest u dest
      (windowRect window).Holds (fragmentPlace u point t w) →
        samplerMain u source (fragment u point t w) =
          samplerDestMain u source (fragment u point t w)

variable [IsStrictOrderedRing K] {u : Uniforms K} {dest : QRectF K}

/-- The test of the plain shader is about the place of the fragment: it is outside in the
coordinates of the texture just in case it is outside of `dest` in those of the item. -/
theorem isOutside_fragment_iff (hz : 0 < u.sourceSubRect.z) (hw : 0 < u.sourceSubRect.w)
    (hdest : dest.NonEmpty) (point : BezierPoint → QPointF K)
    (t : Vertex K × Vertex K × Vertex K) (w : Weights K) :
    IsOutside (withDest u dest) (fragment (withDest u dest) point t w).qtTexCoord0 ↔
      ¬ dest.Holds (fragmentPlace (withDest u dest) point t w) := by
  -- a triangle of a parallelogram that consists of this place
  let v : Vertex K :=
    .set (fragmentPlace (withDest u dest) point t w).x
      (fragmentPlace (withDest u dest) point t w).y 0
  have htexCoord : (fragment (withDest u dest) point t w).qtTexCoord0 =
      (SamplerShader.fragment (withDest u dest) (v, v, v) w).qtTexCoord0 := by
    funext i
    show w.mix _ _ _ = w.mix _ _ _
    rw [w.mix_self, qtTexCoord0_vertexMain, qtTexCoord0_vertexMain, qtTexCoord0_vertexMain]
    match i with
    | 0 => exact mix_texCoord w _ _ _ _ _ _ _
    | 1 => exact mix_texCoord w _ _ _ _ _ _ _
  have hplace : place (v, v, v) w = fragmentPlace (withDest u dest) point t w := by
    show (⟨w.mix _ _ _, w.mix _ _ _⟩ : QPointF K) = _
    rw [w.mix_self, w.mix_self]
    rfl
  rw [htexCoord, isOutside_iff hz hw hdest, hplace]

/-! ## The choice of the shader

The fast shader is chosen if `dest` contains the window. That this is needed is shown by a shape
that has shrunk to a point of the window outside of `dest`. -/

/-- `dest` contains the window just in case it contains the first and the last corner. Both have
to be proper rectangles for it. -/
theorem contains_windowRect_iff (hdest : dest.NonEmpty) {window : QSize} (hwidth : 0 < window.width)
    (hheight : 0 < window.height) :
    dest.contains (windowRect window) = true ↔
      dest.Holds ⟨0, 0⟩ ∧ dest.Holds ⟨window.width, window.height⟩ := by
  have hwidth : (0 : K) < window.width := Int.cast_pos.mpr hwidth
  have hheight : (0 : K) < window.height := Int.cast_pos.mpr hheight
  have hspan {start len extent : K} (hlen : 0 < len) (hextent : 0 < extent) :
      QRectF.spanContains (QRectF.ends start len) (QRectF.ends 0 extent) = true ↔
        start ≤ 0 ∧ extent ≤ start + len := by
    rw [QRectF.ends_of_pos hlen, QRectF.ends_of_pos hextent, QRectF.spanContains,
      decide_eq_true_eq, not_or, not_lt, gt_iff_lt, not_lt, zero_add]
    exact ⟨fun h => h.2.2, fun h => ⟨(lt_add_of_pos_right _ hlen).ne, hextent.ne, h⟩⟩
  rw [QRectF.contains, Bool.and_eq_true, windowRect, hspan hdest.width hwidth,
    hspan hdest.height hheight]
  constructor
  · rintro ⟨⟨hleft, hright⟩, htop, hbottom⟩
    exact ⟨⟨hleft, hwidth.le.trans hright, htop, hheight.le.trans hbottom⟩,
      ⟨hleft.trans hwidth.le, hright, htop.trans hheight.le, hbottom⟩⟩
  · rintro ⟨hfirst, hlast⟩
    exact ⟨⟨hfirst.left, hlast.right⟩, hfirst.top, hlast.bottom⟩

/-- The coarsest mesh has a triangle, without offsets. So the mesh draws something, wherever its
points are put. -/
theorem exists_plain_triangle (K : Type) [Field K] [LinearOrder K] :
    ∃ t ∈ drawnTriangles K ⟨0, 0⟩ false, ∀ v, v = t.1 ∨ v = t.2.1 ∨ v = t.2.2 →
      v.tx = 0 ∧ v.ty = 0 ∧ v.coverage = 1 := by
  obtain ⟨g, hg, -, hvertices, hindices⟩ :=
    Beziergon.generateBodyGeometry_some (K := K) (r := ⟨0, 0⟩) le_rfl le_rfl ⟨by decide, by decide⟩
      false
  have hvertices : g.vertexData.written =
      [Beziergon.bodyVertex 2 2 false 0 0, Beziergon.bodyVertex 2 2 false 1 0,
        Beziergon.bodyVertex 2 2 false 0 1, Beziergon.bodyVertex 2 2 false 1 1] := by
    rw [hvertices, Beziergon.vertices_bodyWrites]
    rfl
  have hindices : g.indexData.written = Beziergon.cellIndices 2 0 0 := by
    rw [hindices, Beziergon.indices_bodyWrites le_rfl le_rfl]
    rfl
  refine ⟨(Beziergon.bodyVertex 2 2 false 0 0, Beziergon.bodyVertex 2 2 false 1 0,
    Beziergon.bodyVertex 2 2 false 0 1), List.mem_append_left _ ?_, ?_⟩
  · rw [hg]
    refine List.mem_filterMap.mpr ⟨(.assign 0, .assign 1, .int2ushort 2), ?_, ?_⟩
    · rw [hindices]
      exact List.mem_cons_self
    · unfold QSGGeometry.vertex?
      rw [hvertices]
      rfl
  · rintro v (rfl | rfl | rfl) <;> exact ⟨rfl, rfl, rfl⟩

/-- In a window that `dest` leaves out in part, a shape that has shrunk to a point can be told. The
slow shader would cut it off there and the fast one would not. -/
theorem holds_of_sameInWindow (hdest : dest.NonEmpty) {window : QSize}
    (hsame : SameInWindow dest window) {p : QPointF K} (hp : (windowRect window).Holds p) :
    dest.Holds p := by
  obtain ⟨t, ht, hplain⟩ := exists_plain_triangle K
  by_contra hnot
  let u : Uniforms K :=
    { qtMatrix := 1, qtOpacity := 1, color := translucent, xScale := 1, yScale := 1
      dest := ofRect dest, sourceSubRect := ofRect wholeSubRect, rotation := 0 }
  let w : Weights K := .along 0 le_rfl zero_le_one
  have hvertex (v : Vertex K) (hv : v = t.1 ∨ v = t.2.1 ∨ v = t.2.2) :
      vertexPlace (withDest u dest) (fun _ => p) v = p :=
    vertexPlace_const _ p (hplain v hv).1 (hplain v hv).2.1
  have hplace : fragmentPlace (withDest u dest) (fun _ => p) t w = p := by
    show (⟨w.mix _ _ _, w.mix _ _ _⟩ : QPointF K) = p
    rw [hvertex _ (.inl rfl), hvertex _ (.inr (.inl rfl)), hvertex _ (.inr (.inr rfl)),
      w.mix_self, w.mix_self]
  have hcoverage : (fragment (withDest u dest) (fun _ => p) t w).vcoverage = 1 := by
    show w.mix t.1.coverage t.2.1.coverage t.2.2.coverage = 1
    rw [(hplain _ (.inl rfl)).2.2, (hplain _ (.inr (.inl rfl))).2.2,
      (hplain _ (.inr (.inr rfl))).2.2, w.mix_self]
  have houtside := (isOutside_fragment_iff (u := u) one_pos one_pos hdest (fun _ => p) t w).mpr
    (by rw [hplace]; exact hnot)
  exact samplerMain_ne rfl rfl houtside (by rw [hcoverage]; exact one_pos)
    (hsame u (fun _ => p) _ _ _ one_pos one_pos premultiplied_translucent t ht w
      (by rw [hplace]; exact hp))

/-- **The fast shader is taken just in case it makes no difference** within the window, whatever
the shape, the resolution, the texture and the colors are.

In one direction every place of the window is in `dest`. In the other, the shape that has shrunk
to a corner of the window is drawn there, and the two shaders would tell if the corner were
outside of `dest`. -/
theorem createsSimple_iff (hdest : dest.NonEmpty) {window : QSize} (hwidth : 0 < window.width)
    (hheight : 0 < window.height) :
    createSampledMaterial dest false (some window) = some .simpleSampledMaterial ↔
      SameInWindow dest window := by
  -- which class is created says no more than where the rectangle of the window lies
  have hchoice : createSampledMaterial dest false (some window) = some .simpleSampledMaterial ↔
      dest.contains (windowRect window) = true := by
    unfold createSampledMaterial
    rw [Option.map_some, Bool.or_false]
    split
    · rename_i hcontains
      exact iff_of_true rfl hcontains
    · rename_i hcontains
      exact iff_of_false (fun h => by cases h) hcontains
  rw [hchoice, contains_windowRect_iff hdest hwidth hheight]
  have hwidth : (0 : K) < window.width := Int.cast_pos.mpr hwidth
  have hheight : (0 : K) < window.height := Int.cast_pos.mpr hheight
  constructor
  · -- in the window `dest` is never left, so the slow shader finds nothing to cut off either
    rintro ⟨hfirst, hlast⟩ u point resolution antialiasing source hz hw - t - w u' hwindow
    refine samplerMain_eq _ source fun houtside => ?_
    refine (isOutside_fragment_iff hz hw hdest point t w).mp houtside
      ⟨hfirst.left.trans hwindow.left, ?_, hfirst.top.trans hwindow.top, ?_⟩
    · exact (hwindow.right.trans_eq (zero_add _)).trans hlast.right
    · exact (hwindow.bottom.trans_eq (zero_add _)).trans hlast.bottom
  · -- the corners of the window tell whether the two shaders agree
    intro hsame
    have hcorner (x y : K) (hx : 0 ≤ x ∧ x ≤ window.width) (hy : 0 ≤ y ∧ y ≤ window.height) :
        dest.Holds ⟨x, y⟩ :=
      holds_of_sameInWindow hdest hsame
        ⟨hx.1, hx.2.trans_eq (zero_add _).symm, hy.1, hy.2.trans_eq (zero_add _).symm⟩
    exact ⟨hcorner 0 0 ⟨le_rfl, hwidth.le⟩ ⟨le_rfl, hheight.le⟩,
      hcorner _ _ ⟨hwidth.le, le_rfl⟩ ⟨hheight.le, le_rfl⟩⟩

theorem createsSimple_iff_fullWindow :
    SameInWindow (K := Rat) ⟨0, 0, 1920, 1080⟩ ⟨1920, 1080⟩ :=
  (createsSimple_iff ⟨by decide, by decide⟩ (by decide) (by decide)).mp (by decide +kernel)

end SamplerGeometry.BezierSampler
