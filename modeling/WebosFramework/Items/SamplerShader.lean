import WebosFramework.Items.Parallelogram
import WebosFramework.Lib.Glsl

/-!
# The shaders of a sampled parallelogram

`parallelogram.vert.qt6`, `sampler.frag.qt6` and `sampler-dest.frag.qt6` of `Eos/Items/src/shaders`,
without their debug variants. The two fragment shaders sample the texture in the same way. Only the
second one leaves it to the background where the texture coordinates are not those of `dest`.
`createSampledMaterial` takes the first one if `dest` contains the rectangle of the item.

* The texture is a function. What the vertex shader hands on is interpolated linearly.
* The sides of an item that leans to the left, and the fringe, are not within its rectangle.

**`sameColors_iff`**: the shaders draw the same whatever the texture and the colors are, just in
case `dest` contains every triangle that is drawn and not transparent.

Texture coordinates are a matter of the place of a fragment (`isOutside_iff`), so that the test of
the second shader asks whether the fragment is in `dest`. Where it is not, the two shaders differ
for a white texture on a background that is half transparent (`samplerMain_ne`), unless the
fragment is transparent itself.
-/

namespace SamplerGeometry.SamplerShader

open Glsl Qt Raster

/-- The uniforms that the three shaders read. -/
structure Uniforms (K : Type) where
  qtMatrix : Mat4 K
  qtOpacity : K
  color : Vec4 K
  xScale : K
  yScale : K
  dest : Vec4 K
  sourceSubRect : Vec4 K
  rotation : Int

/-- What a vertex hands on, and what a fragment gets. -/
structure Varyings (K : Type) where
  glPosition : Vec4 K
  qtTexCoord0 : Vec2 K
  vcoverage : K

/-- `sampler2D` -/
abbrev Sampler2D (K : Type) := Vec2 K → Vec4 K

variable {K : Type} [Field K]

/-- `main` of `parallelogram.vert.qt6` -/
def vertexMain (u : Uniforms K) (a : Vertex K) : Varyings K where
  glPosition := u.qtMatrix.mulVec (vec4 (vec2 a.x a.y) 0 1)
  qtTexCoord0 :=
    xy u.sourceSubRect + zw u.sourceSubRect * ((vec2 a.x a.y - xy u.dest) / zw u.dest)
  vcoverage := a.coverage

/-! ## The mesh

What is drawn of an item: the triangles of the body, and of the fringe if it is antialiased. -/

/-- `updateUniformBlock` writes the `dest` of the item. -/
def withDest (u : Uniforms K) (dest : QRectF K) : Uniforms K :=
  { u with dest := ![dest.x, dest.y, dest.width, dest.height] }

/-- The body, and the fringe if there is one. -/
def drawnTriangles (m : MathH K) (p : Parallelogram K) :
    List (Vertex K × Vertex K × Vertex K) :=
  (p.generateBodyGeometry m).elim [] (·.triangles) ++
    if p.antialiasing then (p.generateFringeGeometry m).elim [] (·.triangles) else []

/-- The corners of what is drawn are among the vertices of the body or of the fringe. -/
theorem corners_of_mem_drawnTriangles {m : MathH K} {p : Parallelogram K}
    {t : Vertex K × Vertex K × Vertex K} (ht : t ∈ drawnTriangles m p) :
    ∃ vs, (vs = p.bodyVertices m ∨ p.antialiasing = true ∧ vs = p.fringeVertices m) ∧
      t.1 ∈ vs ∧ t.2.1 ∈ vs ∧ t.2.2 ∈ vs := by
  rcases List.mem_append.mp ht with ht | ht
  · obtain ⟨g, hg, hvertices, -⟩ := p.exists_bodyGeometry m
    rw [hg] at ht
    have hcorners := QSGGeometry.mem_written_of_mem_triangles ht
    rw [hvertices] at hcorners
    exact ⟨_, .inl rfl, hcorners⟩
  · obtain ⟨g, hg, hvertices, -⟩ := p.exists_fringeGeometry m
    split at ht
    · rename_i hantialiasing
      rw [hg] at ht
      have hcorners := QSGGeometry.mem_written_of_mem_triangles ht
      rw [hvertices] at hcorners
      exact ⟨_, .inr ⟨hantialiasing, rfl⟩, hcorners⟩
    · cases ht

/-- The cell in the middle of the upper edge of the fringe. -/
theorem fringe_mem_drawnTriangles (m : MathH K) {p : Parallelogram K}
    (hantialiasing : p.antialiasing = true) :
    ((.set (0 + p.offset + p.xOff m) (0 - Parallelogram.fringeHeight) 0,
        .set (0 + p.width - p.xOff m) (0 - Parallelogram.fringeHeight) 0,
        .set (0 + p.offset + p.xOff m) (0 + p.yOff m) 1) :
      Vertex K × Vertex K × Vertex K) ∈ drawnTriangles m p := by
  obtain ⟨g, hg, hvertices, hindices⟩ := p.exists_fringeGeometry m
  refine List.mem_append_right _ ?_
  rw [if_pos hantialiasing, hg]
  refine List.mem_filterMap.mpr ⟨(.int2ushort 1, .int2ushort 2, .int2ushort 5), ?_, ?_⟩
  · rw [hindices]
    decide
  · unfold QSGGeometry.vertex?
    rw [hvertices]
    rfl

variable [LinearOrder K]

/-! ## The fragment shaders

The two shaders differ in one test, which leaves out what is outside of `dest`. -/

/-- The coordinate before the texture was turned, by the number of degrees that the material has. -/
def prevCoord (rotation : Int) (texCoord : Vec2 K) : Vec2 K :=
  if rotation = 90 then vec2 texCoord.y (1 - texCoord.x)
  else if rotation = 180 then vec2 (1 - texCoord.x) (1 - texCoord.y)
  else if rotation = 270 then vec2 (1 - texCoord.y) texCoord.x
  else vec2 texCoord.x texCoord.y

/-- The color of the texture at a coordinate, with the background where the scaled texture does
not reach. -/
def texel (u : Uniforms K) (source : Sampler2D K) (texCoord : Vec2 K) : Vec4 K :=
  let prevCoord := prevCoord u.rotation texCoord
  let newCoordX := prevCoord.x * u.xScale + (1 - u.xScale) / (2 : Nat)
  let newCoordY := prevCoord.y * u.yScale + (1 - u.yScale) / (2 : Nat)
  if newCoordX < 0 ∨ newCoordX > 1 ∨ newCoordY < 0 ∨ newCoordY > 1 then u.color
  else source (vec2 newCoordX newCoordY)

/-- `sourceColor`, as both shaders compute it first. -/
def sourceColor (u : Uniforms K) (source : Sampler2D K) (texCoord : Vec2 K) : Vec4 K :=
  let texel := texel u source texCoord
  texel + (fun _ => 1 - texel.a) * u.color

/-- The test of `sampler-dest.frag.qt6`. -/
def IsOutside (u : Uniforms K) (texCoord : Vec2 K) : Prop :=
  texCoord.x < u.sourceSubRect.x ∨ texCoord.y < u.sourceSubRect.y ∨
    texCoord.x > u.sourceSubRect.x + u.sourceSubRect.z ∨
    texCoord.y > u.sourceSubRect.y + u.sourceSubRect.w

instance (u : Uniforms K) (texCoord : Vec2 K) : Decidable (IsOutside u texCoord) :=
  inferInstanceAs (Decidable (_ ∨ _ ∨ _ ∨ _))

/-- `fragmentColor` -/
def blend (u : Uniforms K) (v : Varyings K) (sourceColor : Vec4 K) : Vec4 K :=
  fun i => sourceColor i * u.qtOpacity * v.vcoverage

/-- `main` of `sampler.frag.qt6` -/
def samplerMain (u : Uniforms K) (source : Sampler2D K) (v : Varyings K) : Vec4 K :=
  blend u v (sourceColor u source v.qtTexCoord0)

/-- `main` of `sampler-dest.frag.qt6` -/
def samplerDestMain (u : Uniforms K) (source : Sampler2D K) (v : Varyings K) : Vec4 K :=
  blend u v
    (if IsOutside u v.qtTexCoord0 then u.color else sourceColor u source v.qtTexCoord0)

/-! ## What is drawn

A fragment is a mixture of three vertices. The shaders draw the same if every fragment that can be
seen passes the test. -/

/-- What a fragment of a triangle gets from the vertex shader. -/
def fragment (u : Uniforms K) (t : Vertex K × Vertex K × Vertex K) (w : Weights K) : Varyings K :=
  let v0 := vertexMain u t.1
  let v1 := vertexMain u t.2.1
  let v2 := vertexMain u t.2.2
  { glPosition := fun i => w.mix (v0.glPosition i) (v1.glPosition i) (v2.glPosition i)
    qtTexCoord0 := fun i => w.mix (v0.qtTexCoord0 i) (v1.qtTexCoord0 i) (v2.qtTexCoord0 i)
    vcoverage := w.mix v0.vcoverage v1.vcoverage v2.vcoverage }

/-- Colors are given with their alpha multiplied in. -/
def Premultiplied (color : Vec4 K) : Prop := (∀ i, 0 ≤ color i ∧ color i ≤ color.a) ∧ color.a ≤ 1

/-- Where the fragment is. -/
def place (t : Vertex K × Vertex K × Vertex K) (w : Weights K) : QPointF K :=
  ⟨w.mix t.1.x t.2.1.x t.2.2.x, w.mix t.1.y t.2.1.y t.2.2.y⟩

/-- All corners of the triangle are in the rectangle. -/
def HoldsTriangle (dest : QRectF K) (t : Vertex K × Vertex K × Vertex K) : Prop :=
  dest.Holds ⟨t.1.x, t.1.y⟩ ∧ dest.Holds ⟨t.2.1.x, t.2.1.y⟩ ∧ dest.Holds ⟨t.2.2.x, t.2.2.y⟩

/-- A corner is not transparent. -/
def Visible (t : Vertex K × Vertex K × Vertex K) : Prop :=
  0 < t.1.coverage ∨ 0 < t.2.1.coverage ∨ 0 < t.2.2.coverage

/-- The shaders draw the same fragments, for all colors and textures. -/
def SameColors (m : MathH K) (p : Parallelogram K) (u : Uniforms K) : Prop :=
  ∀ color qtOpacity (source : Sampler2D K), Premultiplied color →
    ∀ t ∈ drawnTriangles m p, ∀ w : Weights K,
      let u := withDest { u with color, qtOpacity } p.dest
      samplerMain u source (fragment u t w) = samplerDestMain u source (fragment u t w)

/-- Inside, both shaders do the same. -/
theorem samplerMain_eq (u : Uniforms K) (source : Sampler2D K) {v : Varyings K}
    (hinside : ¬ IsOutside u v.qtTexCoord0) :
    samplerMain u source v = samplerDestMain u source v := by
  rw [samplerDestMain, if_neg hinside]
  rfl

/-- A transparent fragment is transparent in both. -/
theorem samplerMain_transparent (u : Uniforms K) (source : Sampler2D K) {v : Varyings K}
    (hcoverage : v.vcoverage = 0) : samplerMain u source v = samplerDestMain u source v := by
  funext i
  show _ * v.vcoverage = _ * v.vcoverage
  rw [hcoverage, mul_zero, mul_zero]

/-- What is sampled is the background or a color of the texture. -/
theorem texel_cases (u : Uniforms K) (source : Sampler2D K) (texCoord : Vec2 K) :
    texel u source texCoord = u.color ∨ ∃ coord, texel u source texCoord = source coord := by
  unfold texel
  extract_lets prevCoord newCoordX newCoordY
  split
  · exact .inl rfl
  · exact .inr ⟨_, rfl⟩

variable [IsStrictOrderedRing K]

/-! ## Texture coordinates

A texture coordinate is an affine function of the place. So the test on coordinates is one on
places. -/

section TexCoord

/-- The texture coordinate of a mixture is the one at the mixed place. -/
theorem mix_texCoord (w : Weights K) (s z d e x y x' : K) :
    w.mix (s + z * ((x - d) / e)) (s + z * ((y - d) / e)) (s + z * ((x' - d) / e))
      = s + z * ((w.mix x y x' - d) / e) := by
  have haffine (q : K) : s + z * ((q - d) / e) = z / e * q + (s - z / e * d) := by ring
  simp only [haffine]
  exact w.mix_affine _ _ _ _ _

/-- A texture coordinate is before the texture just in case the place is before `dest`. -/
theorem texCoord_lt_iff {s z d e q : K} (hz : 0 < z) (he : 0 < e) :
    s + z * ((q - d) / e) < s ↔ q < d := by
  rw [add_lt_iff_neg_left, ← not_le, mul_nonneg_iff_of_pos_left hz, le_div_iff₀ he, zero_mul,
    sub_nonneg, not_le]

/-- It is behind the texture just in case the place is behind `dest`. -/
theorem lt_texCoord_iff {s z d e q : K} (hz : 0 < z) (he : 0 < e) :
    s + z < s + z * ((q - d) / e) ↔ d + e < q := by
  rw [add_lt_add_iff_left, lt_mul_iff_one_lt_right hz, one_lt_div he, lt_sub_iff_add_lt']

variable {u : Uniforms K} {dest : QRectF K} {t : Vertex K × Vertex K × Vertex K}

/-- The test is about the place of the fragment, on all four sides. Both the texture and `dest`
have to be proper for it. -/
theorem isOutside_iff (hz : 0 < u.sourceSubRect.z) (hw : 0 < u.sourceSubRect.w)
    (hdest : dest.NonEmpty) (w : Weights K) :
    IsOutside (withDest u dest) (fragment (withDest u dest) t w).qtTexCoord0 ↔
      ¬ dest.Holds (place t w) := by
  have hx : (fragment (withDest u dest) t w).qtTexCoord0.x =
      u.sourceSubRect.x + u.sourceSubRect.z * (((place t w).x - dest.x) / dest.width) :=
    mix_texCoord w _ _ _ _ _ _ _
  have hy : (fragment (withDest u dest) t w).qtTexCoord0.y =
      u.sourceSubRect.y + u.sourceSubRect.w * (((place t w).y - dest.y) / dest.height) :=
    mix_texCoord w _ _ _ _ _ _ _
  have hholds : dest.Holds (place t w) ↔ (dest.x ≤ (place t w).x ∧ dest.y ≤ (place t w).y) ∧
      (place t w).x ≤ dest.x + dest.width ∧ (place t w).y ≤ dest.y + dest.height :=
    ⟨fun ⟨hl, hr, ht, hb⟩ => ⟨⟨hl, ht⟩, hr, hb⟩, fun ⟨⟨hl, ht⟩, hr, hb⟩ => ⟨hl, hr, ht, hb⟩⟩
  unfold IsOutside
  rw [hx, hy]
  show (_ < u.sourceSubRect.x ∨ _ < u.sourceSubRect.y ∨
    _ > u.sourceSubRect.x + u.sourceSubRect.z ∨ _ > u.sourceSubRect.y + u.sourceSubRect.w) ↔ _
  rw [texCoord_lt_iff hz hdest.width, texCoord_lt_iff hw hdest.height, gt_iff_lt, gt_iff_lt,
    lt_texCoord_iff hz hdest.width, lt_texCoord_iff hw hdest.height, hholds]
  simp only [not_and_or, not_le, or_assoc]

end TexCoord

/-! ## Colors

Where the test fails the shaders differ, for some texture and background. -/

/-- Half transparent white -/
def translucent : Vec4 K := fun _ => 1 / (2 : Nat)

/-- It is a color as the materials have them. -/
theorem premultiplied_translucent : Premultiplied (translucent (K := K)) := by
  have hhalf : (0 : K) ≤ 1 / 2 ∧ (1 / 2 : K) ≤ 1 := by
    constructor <;> linarith
  exact ⟨fun _ => ⟨hhalf.1, le_rfl⟩, hhalf.2⟩

/-- A white texture can be told from a background that is half transparent, wherever it is
sampled. -/
theorem sourceColor_white {u : Uniforms K} (hcolor : u.color = translucent) (texCoord : Vec2 K)
    (i : Fin 4) : 1 / 2 < sourceColor u (fun _ _ => 1) texCoord i := by
  show 1 / 2 < texel u (fun _ _ => 1) texCoord i
    + (1 - (texel u (fun _ _ => 1) texCoord).a) * u.color i
  rw [hcolor]
  rcases texel_cases u (fun _ _ => 1) texCoord with htexel | ⟨_, htexel⟩
  · rw [htexel, hcolor]
    show (1 / 2 : K) < 1 / 2 + (1 - 1 / 2) * (1 / 2)
    norm_num
  · rw [htexel]
    show (1 / 2 : K) < 1 + (1 - 1) * (1 / 2)
    norm_num

/-- The shaders differ wherever the texture is left out and the fragment is not transparent. -/
theorem samplerMain_ne {u : Uniforms K} {v : Varyings K} (hcolor : u.color = translucent)
    (hopacity : u.qtOpacity = 1) (houtside : IsOutside u v.qtTexCoord0)
    (hvisible : 0 < v.vcoverage) :
    samplerMain u (fun _ _ => 1) v ≠ samplerDestMain u (fun _ _ => 1) v := by
  intro hsame
  have hwhite := sourceColor_white hcolor v.qtTexCoord0 0
  have h0 := congrFun hsame 0
  rw [samplerDestMain, if_pos houtside] at h0
  have h0 : sourceColor u (fun _ _ => 1) v.qtTexCoord0 0 * u.qtOpacity * v.vcoverage
      = u.color 0 * u.qtOpacity * v.vcoverage := h0
  rw [hopacity, mul_one, mul_one, hcolor] at h0
  exact hwhite.ne' (mul_right_cancel₀ hvisible.ne' h0)

/-! ## When the shaders draw the same

From fragments to triangles, and from triangles to the item: `dest` has to contain every triangle
that can be seen. -/

section Same

variable {m : MathH K} {p : Parallelogram K} {t : Vertex K × Vertex K × Vertex K}

/-- The vertices of the body are opaque. -/
theorem coverage_nonneg_body : ∀ v ∈ p.bodyVertices m, 0 ≤ v.coverage := by
  simp [Parallelogram.bodyVertices, Vertex.set]

/-- Those of the fringe are opaque or transparent. -/
theorem coverage_nonneg_fringe : ∀ v ∈ p.fringeVertices m, 0 ≤ v.coverage := by
  simp [Parallelogram.fringeVertices, Vertex.set]

/-- No vertex is less than transparent. -/
theorem coverage_nonneg (ht : t ∈ drawnTriangles m p) :
    0 ≤ t.1.coverage ∧ 0 ≤ t.2.1.coverage ∧ 0 ≤ t.2.2.coverage := by
  obtain ⟨vs, hvs, h1, h2, h3⟩ := corners_of_mem_drawnTriangles ht
  have hall : ∀ v ∈ vs, 0 ≤ v.coverage := by
    rcases hvs with rfl | ⟨-, rfl⟩
    · exact coverage_nonneg_body
    · exact coverage_nonneg_fringe
  exact ⟨hall _ h1, hall _ h2, hall _ h3⟩

/-- A rectangle that has the corners has the whole triangle. -/
theorem HoldsTriangle.holds {dest : QRectF K} (h : HoldsTriangle dest t) (w : Weights K) :
    dest.Holds (place t w) := by
  obtain ⟨h1, h2, h3⟩ := h
  exact ⟨w.le_mix h1.left h2.left h3.left, w.mix_le h1.right h2.right h3.right,
    w.le_mix h1.top h2.top h3.top, w.mix_le h1.bottom h2.bottom h3.bottom⟩

/-- A rectangle contains the visible points of a triangle just in case it contains its corners. A
corner that is transparent itself is a limit of visible points, and a rectangle is closed. -/
theorem forall_holds_iff {dest : QRectF K}
    (hcoverage : 0 ≤ t.1.coverage ∧ 0 ≤ t.2.1.coverage ∧ 0 ≤ t.2.2.coverage) (ht : Visible t) :
    (∀ w : Weights K, 0 < w.mix t.1.coverage t.2.1.coverage t.2.2.coverage →
      dest.Holds (place t w)) ↔ HoldsTriangle dest t := by
  obtain ⟨hk, hl, hm⟩ := hcoverage
  constructor
  · intro h
    obtain ⟨l1, l2, l3⟩ := (forall_le_mix_iff hk hl hm ht).mp fun w hw => (h w hw).left
    obtain ⟨r1, r2, r3⟩ := (forall_mix_le_iff hk hl hm ht).mp fun w hw => (h w hw).right
    obtain ⟨t1, t2, t3⟩ := (forall_le_mix_iff hk hl hm ht).mp fun w hw => (h w hw).top
    obtain ⟨b1, b2, b3⟩ := (forall_mix_le_iff hk hl hm ht).mp fun w hw => (h w hw).bottom
    exact ⟨⟨l1, r1, t1, b1⟩, ⟨l2, r2, t2, b2⟩, ⟨l3, r3, t3, b3⟩⟩
  · exact fun h w _ => h.holds w

/-- A fragment is not less than transparent either. -/
theorem vcoverage_nonneg (ht : t ∈ drawnTriangles m p) (u : Uniforms K) (w : Weights K) :
    0 ≤ (fragment u t w).vcoverage := by
  obtain ⟨h1, h2, h3⟩ := coverage_nonneg ht
  exact w.le_mix h1 h2 h3

/-- A fragment of a triangle that is transparent is transparent, and so is what is drawn. -/
theorem vcoverage_eq_zero (ht : t ∈ drawnTriangles m p) (hvisible : ¬ Visible t) (u : Uniforms K)
    (w : Weights K) : (fragment u t w).vcoverage = 0 := by
  simp only [Visible, not_or, not_lt] at hvisible
  obtain ⟨h1, h2, h3⟩ := hvisible
  exact le_antisymm (w.mix_le h1 h2 h3) (vcoverage_nonneg ht u w)

variable {u : Uniforms K}

/-- The shaders draw the same wherever a fragment is within `dest`. -/
theorem same_of_holds (hz : 0 < u.sourceSubRect.z) (hw : 0 < u.sourceSubRect.w)
    (hdest : p.dest.NonEmpty) (source : Sampler2D K) {w : Weights K}
    (hholds : p.dest.Holds (place t w)) :
    samplerMain (withDest u p.dest) source (fragment (withDest u p.dest) t w) =
      samplerDestMain (withDest u p.dest) source (fragment (withDest u p.dest) t w) := by
  refine samplerMain_eq _ source fun houtside => ?_
  exact (isOutside_iff hz hw hdest w).mp houtside hholds

/-- The shaders draw the same in all colors just in case `dest` contains every triangle that is
not transparent. One direction takes the fragments one by one; the other takes a white texture and
a background that is half transparent. -/
theorem sameColors_iff (hz : 0 < u.sourceSubRect.z) (hw : 0 < u.sourceSubRect.w)
    (hdest : p.dest.NonEmpty) :
    SameColors m p u ↔ ∀ t ∈ drawnTriangles m p, Visible t → HoldsTriangle p.dest t := by
  constructor
  · intro hsame t ht hvisible
    refine (forall_holds_iff (coverage_nonneg ht) hvisible).mp fun w hcoverage => ?_
    by_contra hholds
    let u' : Uniforms K := { u with color := translucent, qtOpacity := 1 }
    have houtside : IsOutside (withDest u' p.dest)
        (fragment (withDest u' p.dest) t w).qtTexCoord0 :=
      (isOutside_iff hz hw hdest w).mpr hholds
    exact samplerMain_ne rfl rfl houtside hcoverage
      (hsame translucent 1 _ premultiplied_translucent t ht w)
  · intro hholds color qtOpacity source _ t ht w
    by_cases hvisible : Visible t
    · have hplace : p.dest.Holds (place t w) := (hholds t ht hvisible).holds w
      exact same_of_holds (u := { u with color, qtOpacity }) hz hw hdest source hplace
    · exact samplerMain_transparent _ source (vcoverage_eq_zero ht hvisible _ w)

/-- Without a fringe, an item that does not lean to the left is drawn within its rectangle. Leaning
to the left it would reach out of the rectangle on both sides. -/
theorem holdsTriangle_aliased (hdest : p.dest.NonEmpty)
    (hcontains : p.dest.contains ⟨0, 0, p.width, p.height⟩ = true) (h0 : 0 ≤ p.offset)
    (hwidth : p.offset ≤ p.width) (haliased : p.antialiasing = false)
    (ht : t ∈ drawnTriangles m p) : HoldsTriangle p.dest t := by
  obtain ⟨hx, hy⟩ := Bool.and_eq_true_iff.mp hcontains
  obtain ⟨⟨hleft, hleft'⟩, hright, hright'⟩ := QRectF.bounds_of_spanContains hdest.width hx
  obtain ⟨⟨htop, htop'⟩, hbottom, hbottom'⟩ := QRectF.bounds_of_spanContains hdest.height hy
  obtain ⟨vs, hvs, h1, h2, h3⟩ := corners_of_mem_drawnTriangles ht
  -- all four corners of the body are corners of the item, or between two of them
  have hall : ∀ v ∈ vs, p.dest.Holds ⟨v.x, v.y⟩ := by
    rcases hvs with rfl | ⟨hantialiasing, -⟩
    · simp only [Parallelogram.bodyVertices, haliased, Bool.false_eq_true, if_false, Vertex.set,
        List.forall_mem_cons, List.not_mem_nil, false_implies, implies_true, and_true, zero_add,
        add_zero, sub_zero]
      refine ⟨⟨?_, ?_, htop, hbottom⟩, ⟨hleft', hright', htop, hbottom⟩,
        ⟨hleft, hright, htop', hbottom'⟩, ⟨?_, ?_, htop', hbottom'⟩⟩
      · exact hleft.trans h0
      · exact hwidth.trans hright'
      · exact hleft.trans (sub_nonneg.mpr hwidth)
      · show p.width - p.offset ≤ _
        linarith
    · rw [haliased] at hantialiasing
      cases hantialiasing
  exact ⟨hall _ h1, hall _ h2, hall _ h3⟩

/-- **The fast shader draws what the other one would** at every place within `dest`. So it does
everywhere if there is no fringe and the item does not lean to the left, and in general just in
case `dest` contains every triangle that is drawn and not transparent.

That `dest` contains the rectangle of the item, which is what the source asks for, is enough for
the first two; the fringe lies outside of that rectangle. -/
theorem sampler_agrees (m : MathH K) (p : Parallelogram K) (u : Uniforms K)
    (hwidth : p.offset ≤ p.width) (hdest : p.dest.NonEmpty)
    (hz : 0 < u.sourceSubRect.z) (hw : 0 < u.sourceSubRect.w) (hclamp : p.clampToEdge = false)
    (hsimple : p.createSampledMaterial = .simpleSampledMaterial) :
    (∀ source, ∀ t ∈ drawnTriangles m p, ∀ w : Weights K, p.dest.Holds (place t w) →
      samplerMain (withDest u p.dest) source (fragment (withDest u p.dest) t w) =
        samplerDestMain (withDest u p.dest) source (fragment (withDest u p.dest) t w)) ∧
    (p.antialiasing = false → 0 ≤ p.offset → SameColors m p u) ∧
    (SameColors m p u ↔ ∀ t ∈ drawnTriangles m p, Visible t → HoldsTriangle p.dest t) := by
  have hcontains : p.dest.contains ⟨0, 0, p.width, p.height⟩ = true := by
    by_contra hnot
    simp [Parallelogram.createSampledMaterial, hclamp, hnot] at hsimple
  refine ⟨?_, ?_, sameColors_iff hz hw hdest⟩
  · intro source t _ w hholds
    exact same_of_holds hz hw hdest source hholds
  · intro haliased h0
    refine (sameColors_iff hz hw hdest).mpr fun t ht _ => ?_
    exact holdsTriangle_aliased hdest hcontains h0 hwidth haliased ht

end Same

/-- An item that does not lean. Its `dest` is the default value. -/
noncomputable def upright : Parallelogram ℝ where
  width := (10 : Nat)
  height := (10 : Nat)
  dest := ⟨0, 0, (10 : Nat), (10 : Nat)⟩
  angle := 0
  offset := 0

/-- A texture that is sampled as a whole. -/
noncomputable def wholeTexture : Uniforms ℝ where
  qtMatrix := 1
  qtOpacity := 1
  color := translucent
  xScale := 1
  yScale := 1
  dest := 0
  sourceSubRect := ![0, 0, 1, 1]
  rotation := 0

/-- Its `dest` is a proper rectangle. -/
theorem nonEmpty_upright : upright.dest.NonEmpty := by
  constructor <;> norm_num [upright]

/-- It gets the fast shader. -/
theorem simple_upright : upright.createSampledMaterial = .simpleSampledMaterial := by
  norm_num [Parallelogram.createSampledMaterial, upright, QRectF.contains, QRectF.spanContains,
    QRectF.ends]

/-- The texture is a proper one. -/
theorem wholeTexture_pos :
    0 < wholeTexture.sourceSubRect.z ∧ 0 < wholeTexture.sourceSubRect.w :=
  ⟨zero_lt_one, zero_lt_one⟩

theorem sampler_agrees_upright :
    SameColors .real { upright with antialiasing := false } wholeTexture :=
  (sampler_agrees .real { upright with antialiasing := false } wholeTexture
    (by norm_num [upright]) nonEmpty_upright wholeTexture_pos.1 wholeTexture_pos.2 rfl
    simple_upright).2.1 rfl le_rfl

/-- The fringe is drawn outside of `dest`. -/
theorem sampler_differs_upright :
    upright.offset = MathH.real.tan (upright.angle * MathH.real.pi / 180) * upright.height ∧
    upright.offset ≤ upright.width ∧ upright.dest.NonEmpty ∧ upright.clampToEdge = false ∧
    upright.createSampledMaterial = .simpleSampledMaterial ∧
    ¬ SameColors .real upright wholeTexture := by
  refine ⟨?_, ?_, nonEmpty_upright, rfl, simple_upright, fun hsame => ?_⟩
  · simp [upright, MathH.real]
  · norm_num [upright]
  · have hwithin := (sameColors_iff wholeTexture_pos.1 wholeTexture_pos.2 nonEmpty_upright).mp hsame
    have hholds := hwithin _ (fringe_mem_drawnTriangles .real rfl) (.inr (.inr zero_lt_one))
    have htop : (0 : ℝ) ≤ 0 - Parallelogram.fringeHeight := hholds.1.top
    norm_num [Parallelogram.fringeHeight] at htop

end SamplerGeometry.SamplerShader
