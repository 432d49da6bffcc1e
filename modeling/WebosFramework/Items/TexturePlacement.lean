import Mathlib.Data.Rat.Floor
import WebosFramework.Items.Materials
import WebosFramework.Items.SamplerShader
import WebosFramework.Lib.Pictures

/-!
# Where the texture of an item is drawn

`updateSampledMaterial` of `Eos/Items/src/samplergeometry.cpp` asks the source item for its
rotation, and works out how the texture is to be scaled, whenever its provider is new to the
material. The fragment shaders turn and scale the coordinates in which they sample the texture.

* Of a color, `QColor` stores 16 bits for each component.
* The scale factors are exact. They are infinite in the source where the size that is drawn is 0.

**`draws_picture_iff`**: a texture is drawn in its own size in the middle of `dest`, turned as often
as the source item is, just in case that item stands upright or lies on its side, or `dest` is a
square.

What the shader does with a texture coordinate is to put a picture somewhere (`newCoord_eq`), so
the statement about colors becomes one about pictures: when two sizes and numbers of turns give the
same one, which is `samePicture_iff` of `Lib.Pictures`. The rest is integer arithmetic about the
rotation.
-/

namespace SamplerGeometry

open Glsl Picture Qt Raster SamplerShader

/-! ## The material

What the item sets on its material: the scale factors and the rotation, from what the source item
says of itself. -/

section Material

variable {K : Type} [Field K] [LinearOrder K]

/-- `redF`, `greenF`, `blueF` and `alphaF` -/
def QColor.components (color : QColor) : Vec4 K :=
  let component (c : UInt16) : K := (c.toNat : K) / (65535 : Nat)
  ![component color.red, component color.green, component color.blue, component color.alpha]

variable [FloorRing K]

/-- Halves are rounded away from zero, as from Qt 6 on. -/
def qRound (v : K) : Int := truncate (if 0 ≤ v then v + 1 / (2 : Nat) else v - 1 / (2 : Nat))

/-- A size in whole pixels. -/
structure QSize where
  width : Int
  height : Int
  deriving DecidableEq

namespace QSize

variable (s : QSize)

/-- Nothing of it can be drawn. -/
def isEmpty : Bool := s.width < 1 || s.height < 1

/-- `s *= c` -/
def mul (c : K) : QSize := ⟨qRound (s.width * c), qRound (s.height * c)⟩

/-- `s / c` -/
def div (c : K) : QSize := ⟨qRound (s.width / c), qRound (s.height / c)⟩

end QSize

/-- `QQuickImage::FillMode` -/
inductive FillMode where
  | stretch
  | preserveAspectFit
  | preserveAspectCrop
  | tile
  | tileVertically
  | tileHorizontally
  | pad
  deriving DecidableEq

/-- What the source item is asked for. -/
structure SourceItem (K : Type) where
  rotation : K
  scale : K
  width : K
  height : K
  /-- The size of the texture that its provider has. -/
  textureSize : Option QSize
  /-- For a `QQuickImage`, its fill mode. -/
  fillMode : Option FillMode

variable (it : Item K) (source : SourceItem K) (devicePixelRatio : K)

/-- `m_rotation`: from 0 to 359, or to 360 for a rotation that is negative. -/
def SourceItem.materialRotation : Int :=
  if 0 ≤ source.rotation then (truncate source.rotation).tmod 360
  else (truncate source.rotation).tmod 360 + 360

/-- `QSize(width(), height())` -/
def Item.size : QSize := ⟨truncate it.width, truncate it.height⟩

/-- The size in which the texture is to be drawn. -/
def Item.sourceSize (textureSize : QSize) : QSize :=
  let sourceSize := textureSize.mul source.scale
  match source.fillMode with
  | none =>
    if !qFuzzyCompare source.width (sourceSize.width : K) ||
        !qFuzzyCompare source.height (sourceSize.height : K) then it.size
    else sourceSize.div devicePixelRatio
  | some mode => if mode = .stretch then it.size else sourceSize

/-- `updateSampledMaterial`, for a source item with a provider that is new to the material. -/
def Material.updateSampledMaterial (mat : Material K) : Material K :=
  let rotation := source.materialRotation
  let mat := { mat with color := it.color.components, dest := it.dest, rotation }
  let textureSize := source.textureSize.getD ⟨-1, -1⟩
  if !textureSize.isEmpty && 0 < it.dest.width && 0 < it.dest.height then
    let sourceSize := it.sourceSize source devicePixelRatio textureSize
    if rotation.tmod 180 ≠ 0 then
      { mat with
        xScale := it.dest.height / sourceSize.width
        yScale := it.dest.width / sourceSize.height }
    else
      { mat with
        xScale := it.dest.width / sourceSize.width
        yScale := it.dest.height / sourceSize.height }
  else { mat with xScale := 1, yScale := 1 }

end Material

/-! ## What is drawn

The shader samples a picture that has been scaled and turned about the centre of `dest`. The
library of pictures says when two such pictures are the same. -/

section Draws

variable {K : Type} [Field K] [LinearOrder K]

/-- What the shaders read. -/
def shaderUniforms (state : RenderState K) (base : BaseUniforms K) : Uniforms K where
  qtMatrix := state.combinedMatrix
  qtOpacity := state.opacity
  color := base.color
  xScale := base.xScale
  yScale := base.yScale
  dest := base.dest
  sourceSubRect := base.sourceSubRect
  rotation := base.rotation

/-- How far a point is from the centre of `dest`. -/
def fromCentre (dest : QRectF K) (p : QPointF K) : Vec2 K :=
  vec2 (p.x - (dest.x + dest.width / (2 : Nat))) (p.y - (dest.y + dest.height / (2 : Nat)))

/-- Whatever the texture and the background are, every fragment gets the color of the picture of
some size that is in the middle of `dest`, after `k` quarter turns clockwise. -/
def DrawsPicture (u : Uniforms K) (dest : QRectF K) (size : Vec2 K) (k : Nat) : Prop :=
  ∀ color (source : Sampler2D K) t (w : Weights K),
    texel { u with color } source (fragment u t w).qtTexCoord0 =
      sample source color (coordAt size k (fromCentre dest (place t w)))

/-- The turns of an item; one that neither stands upright nor lies on its side has none. -/
def quarterTurns (rotation : Int) : Nat := if 90 ∣ rotation then (rotation / 90 % 4).toNat else 0

/-- The whole texture, not a part of an atlas. -/
def wholeSubRect : QRectF K := ⟨0, 0, 1, 1⟩

/-- Where the texture is sampled. -/
def newCoord (u : Uniforms K) (texCoord : Vec2 K) : Vec2 K :=
  vec2 ((prevCoord u.rotation texCoord).x * u.xScale + (1 - u.xScale) / (2 : Nat))
    ((prevCoord u.rotation texCoord).y * u.yScale + (1 - u.yScale) / (2 : Nat))

/-- The shader samples where it has scaled and turned the coordinate to. -/
theorem texel_eq (u : Uniforms K) (source : Sampler2D K) (texCoord : Vec2 K) :
    texel u source texCoord = sample source u.color (newCoord u texCoord) := by
  have hcovers : Covers (newCoord u texCoord) ↔
      ¬ ((newCoord u texCoord).x < 0 ∨ (newCoord u texCoord).x > 1 ∨
        (newCoord u texCoord).y < 0 ∨ (newCoord u texCoord).y > 1) := by
    simp only [not_or, not_lt, gt_iff_lt]
    exact ⟨fun h => ⟨h.left, h.right, h.top, h.bottom⟩, fun h => ⟨h.1, h.2.1, h.2.2.1, h.2.2.2⟩⟩
  show (if _ then _ else _) = if _ then _ else _
  by_cases h : Covers (newCoord u texCoord)
  · rw [if_pos h]
    exact if_neg (hcovers.mp h)
  · rw [if_neg h]
    exact if_pos (not_not.mp fun hnot => h (hcovers.mpr hnot))

/-- The turns that `prevCoord` makes. -/
def shaderTurns (rotation : Int) : Nat :=
  if rotation = 90 then 1 else if rotation = 180 then 2 else if rotation = 270 then 3 else 0

/-- The size in which the texture is drawn, before it is turned. -/
def shownSize (u : Uniforms K) (dest : QRectF K) : Vec2 K :=
  if u.rotation = 90 ∨ u.rotation = 270 then vec2 (dest.height / u.xScale) (dest.width / u.yScale)
  else vec2 (dest.width / u.xScale) (dest.height / u.yScale)

/-- A shader makes less than a full turn. -/
theorem shaderTurns_lt (rotation : Int) : shaderTurns rotation < 4 := by
  unfold shaderTurns
  grind

variable [IsStrictOrderedRing K]

/-- The texture coordinate of a point, from the centre on. -/
theorem texCoord_eq {d e q : K} (he : e ≠ 0) :
    0 + 1 * ((q - d) / e) = 1 / (2 : Nat) + (q - (d + e / (2 : Nat))) / e := by
  push_cast
  field_simp
  ring

/-- The shader samples a picture that has been put somewhere. There are four cases of the
rotation, and in each of them the two coordinates are scaled around the centre, forwards or
backwards. -/
theorem newCoord_eq (u : Uniforms K) (dest : QRectF K) (offset : Vec2 K) :
    newCoord u (vec2 (1 / (2 : Nat) + offset.x / dest.width)
        (1 / (2 : Nat) + offset.y / dest.height)) =
      coordAt (shownSize u dest) (shaderTurns u.rotation) offset := by
  -- a coordinate that goes on as it is
  have hscale (q e scale : K) :
      (1 / (2 : Nat) + q / e) * scale + (1 - scale) / (2 : Nat) =
        1 / (2 : Nat) + q / (e / scale) := by
    rw [div_div_eq_mul_div]
    push_cast
    ring
  -- a coordinate that goes backwards
  have hback (q e scale : K) :
      (1 - (1 / (2 : Nat) + q / e)) * scale + (1 - scale) / (2 : Nat) =
        1 / (2 : Nat) + -q / (e / scale) := by
    rw [div_div_eq_mul_div]
    push_cast
    ring
  unfold newCoord prevCoord shownSize shaderTurns coordAt
  -- the shader tells three angles from all the others
  by_cases h90 : u.rotation = 90
  · simp only [h90, true_or, if_true]
    exact congrArg₂ vec2 (hscale _ _ _) (hback _ _ _)
  · by_cases h180 : u.rotation = 180
    · simp only [h180]
      exact congrArg₂ vec2 (hback _ _ _) (hback _ _ _)
    · by_cases h270 : u.rotation = 270
      · have hback3 : turnBack^[3] offset = vec2 (-offset.y) offset.x := by
          show vec2 (-offset.y) (- -offset.x) = _
          rw [neg_neg]
        simp only [h90, h180, eq_true h270, if_false, if_true, or_true, hback3]
        exact congrArg₂ vec2 (hback _ _ _) (hscale _ _ _)
      · simp only [h90, h180, h270, or_self, if_false]
        exact congrArg₂ vec2 (hscale _ _ _) (hscale _ _ _)

/-- The texture coordinate of a fragment is its place in `dest`, from 0 to 1 in both directions. It
is interpolated between the corners, as the place is, so the one is an affine function of the other.
-/
theorem texCoord_fragment {u : Uniforms K} {dest : QRectF K} (hdest : dest.NonEmpty)
    (hudest : u.dest = ofRect dest) (hsub : u.sourceSubRect = ofRect wholeSubRect)
    (t : Vertex K × Vertex K × Vertex K) (w : Weights K) :
    (fragment u t w).qtTexCoord0 =
      vec2 (1 / (2 : Nat) + (fromCentre dest (place t w)).x / dest.width)
        (1 / (2 : Nat) + (fromCentre dest (place t w)).y / dest.height) := by
  apply eq_vec2
  · calc (fragment u t w).qtTexCoord0.x
        = u.sourceSubRect.x + u.sourceSubRect.z * (((place t w).x - u.dest.x) / u.dest.z) :=
          mix_texCoord w _ _ _ _ _ _ _
      _ = 0 + 1 * (((place t w).x - dest.x) / dest.width) := by
          rw [hudest, hsub]
          rfl
      _ = _ := texCoord_eq hdest.width.ne'
  · calc (fragment u t w).qtTexCoord0.y
        = u.sourceSubRect.y + u.sourceSubRect.w * (((place t w).y - u.dest.y) / u.dest.w) :=
          mix_texCoord w _ _ _ _ _ _ _
      _ = 0 + 1 * (((place t w).y - dest.y) / dest.height) := by
          rw [hudest, hsub]
          rfl
      _ = _ := texCoord_eq hdest.height.ne'

/-- Which picture is drawn depends on its size and on the turns. Every place is that of some
fragment: a triangle may consist of one point. -/
theorem drawsPicture_iff {u : Uniforms K} {dest : QRectF K} (hdest : dest.NonEmpty)
    (hudest : u.dest = ofRect dest) (hsub : u.sourceSubRect = ofRect wholeSubRect)
    (size : Vec2 K) (k : Nat) :
    DrawsPicture u dest size k ↔
      SamePicture (Vec4 K) (shownSize u dest) (shaderTurns u.rotation) size k := by
  constructor
  · intro h source background offset
    -- a triangle that consists of one point
    let v : Vertex K :=
      .set (dest.x + dest.width / (2 : Nat) + offset.x)
        (dest.y + dest.height / (2 : Nat) + offset.y) 0
    let w : Weights K := .along 0 le_rfl zero_le_one
    have hplace : fromCentre dest (place (v, v, v) w) = offset := by
      rw [eq_vec2 (rfl : offset.x = _) rfl]
      apply congrArg₂ vec2
      · show w.mix _ _ _ - (dest.x + dest.width / (2 : Nat)) = offset.x
        rw [w.mix_self]
        exact add_sub_cancel_left _ _
      · show w.mix _ _ _ - (dest.y + dest.height / (2 : Nat)) = offset.y
        rw [w.mix_self]
        exact add_sub_cancel_left _ _
    have hdraws := h background source (v, v, v) w
    rw [texel_eq, texCoord_fragment hdest hudest hsub, hplace] at hdraws
    exact (congrArg _ (newCoord_eq u dest offset)).symm.trans hdraws
  · intro h color source t w
    rw [texel_eq, texCoord_fragment hdest hudest hsub]
    exact (congrArg _ (newCoord_eq u dest _)).trans (h source color _)

end Draws

/-! ## The rotation of the source item

The rotation is truncated, and only multiples of a right angle turn the texture. -/

section Rotation

variable {K : Type} [Field K] [LinearOrder K] [FloorRing K]

/-- Truncation keeps what is not negative. -/
theorem truncate_nonneg {v : K} (hv : 0 ≤ v) : 0 ≤ truncate v := by
  rw [truncate, if_pos hv]
  exact Int.floor_nonneg.mpr hv

/-- And it keeps what is not positive. -/
theorem truncate_nonpos {v : K} (hv : v < 0) : truncate v ≤ 0 := by
  rw [truncate, if_neg hv.not_ge, Int.ceil_le, Int.cast_zero]
  exact hv.le

/-- The rotation, up to full turns. It may be 360, for which no shader turns anything, as for 0. -/
theorem materialRotation_spec (source : SourceItem K) :
    0 ≤ source.materialRotation ∧ source.materialRotation ≤ 360 ∧
      source.materialRotation % 360 = truncate source.rotation % 360 := by
  unfold SourceItem.materialRotation
  split
  · rename_i hrotation
    have hnonneg := truncate_nonneg hrotation
    rw [Int.tmod_eq_emod_of_nonneg hnonneg]
    omega
  · rename_i hrotation
    have hnonpos := truncate_nonpos (not_le.mp hrotation)
    obtain ⟨n, hn⟩ : ∃ n, n = -truncate source.rotation := ⟨_, rfl⟩
    rw [show truncate source.rotation = -n by omega, Int.neg_tmod,
      Int.tmod_eq_emod_of_nonneg (by omega)]
    omega

/-- The shader turns as often as the item is turned by quarter turns, and not at all otherwise. -/
theorem shaderTurns_materialRotation (source : SourceItem K) :
    shaderTurns source.materialRotation = quarterTurns (truncate source.rotation) := by
  obtain ⟨hnonneg, hle, hmod⟩ := materialRotation_spec source
  generalize source.materialRotation = rotation at hnonneg hle hmod
  unfold shaderTurns quarterTurns
  split_ifs <;> omega

/-- The scale factors are swapped if the shader turns the texture on its side, and besides if the
rotation is not one by quarter turns. -/
theorem materialRotation_tmod (source : SourceItem K) :
    source.materialRotation.tmod 180 ≠ 0 ↔
      ¬ 90 ∣ truncate source.rotation ∨
        source.materialRotation = 90 ∨ source.materialRotation = 270 := by
  obtain ⟨hnonneg, hle, hmod⟩ := materialRotation_spec source
  rw [Int.tmod_eq_emod_of_nonneg hnonneg]
  omega

/-- The scale factors are swapped without the texture being turned just in case the rotation is
not one by quarter turns. -/
theorem swapped_iff (source : SourceItem K) :
    (source.materialRotation.tmod 180 ≠ 0 ∧
        ¬ (source.materialRotation = 90 ∨ source.materialRotation = 270)) ↔
      ¬ 90 ∣ truncate source.rotation := by
  have hspec := materialRotation_spec source
  rw [materialRotation_tmod]
  omega

end Rotation

/-! ## The picture of the source item

The two are compared: the picture that the shader samples, and the source item as it is turned. -/

section Picture

variable {K : Type} [Field K]

/-- A size as a vector. -/
def QSize.components (s : QSize) : Vec2 K := vec2 s.width s.height

/-- The uniforms of an item that samples its source item. -/
def Shader.itemUniforms (s : Shader) (n : Numbers K) (state : RenderState K) (w : UniformWriter)
    (mat : Material K) : Uniforms K :=
  shaderUniforms state (s.updateUniformData n state (some wholeSubRect) mat w).1.baseUniforms

/-- What the fragment stage reads of a sampled material, whatever has been written before. -/
theorem itemUniforms_eq {s : Shader} (hs : s.samples = true) (n : Numbers K)
    (state : RenderState K) (w : UniformWriter) (mat : Material K) :
    s.itemUniforms n state w mat =
      { qtMatrix := state.combinedMatrix
        qtOpacity := state.opacity
        color := premultiplied mat.color
        xScale := mat.xScale
        yScale := mat.yScale
        dest := ofRect mat.dest
        sourceSubRect := ofRect wholeSubRect
        rotation := mat.rotation } := by
  obtain ⟨kind, beziergon⟩ := s
  cases kind with
  | solid => cases hs
  | sampled | simpleSampled => rfl

variable [LinearOrder K] [FloorRing K] (it : Item K) (source : SourceItem K) (devicePixelRatio : K)
  {textureSize : QSize}

/-- What is set on the material when there is a texture: the rotation, `dest`, and the two scale
factors, which are swapped when the rotation modulo 180 is not 0. -/
theorem updateSampledMaterial_eq (mat : Material K)
    (htexture : source.textureSize = some textureSize) (hempty : textureSize.isEmpty = false)
    (hdest : it.dest.NonEmpty) :
    let mat' := mat.updateSampledMaterial it source devicePixelRatio
    let size := it.sourceSize source devicePixelRatio textureSize
    mat'.rotation = source.materialRotation ∧ mat'.dest = it.dest ∧
      (mat'.xScale, mat'.yScale) =
        if source.materialRotation.tmod 180 ≠ 0 then
          (it.dest.height / size.width, it.dest.width / size.height)
        else (it.dest.width / size.width, it.dest.height / size.height) := by
  have hscaled : (!textureSize.isEmpty && decide (0 < it.dest.width) &&
      decide (0 < it.dest.height)) = true := by
    rw [hempty, decide_eq_true hdest.width, decide_eq_true hdest.height]
    rfl
  unfold Material.updateSampledMaterial
  dsimp only
  rw [htexture, Option.getD_some, if_pos hscaled]
  split <;> exact ⟨rfl, rfl, rfl⟩

omit [FloorRing K] in
/-- The size that is shown is the one that is asked for if the shader turns the texture wherever
the scale factors are swapped. Otherwise both extents are off, by the ratio of `dest`. -/
theorem shownSize_eq {u : Uniforms K} {dest : QRectF K} (hdest : dest.NonEmpty) {size : QSize}
    {swapped : Prop} [Decidable swapped] (hturned : u.rotation = 90 ∨ u.rotation = 270 → swapped)
    (hscale : (u.xScale, u.yScale) =
      if swapped then (dest.height / (size.width : K), dest.width / (size.height : K))
      else (dest.width / (size.width : K), dest.height / (size.height : K))) :
    shownSize u dest =
      if swapped ∧ ¬ (u.rotation = 90 ∨ u.rotation = 270) then
        vec2 (size.width * (dest.width / dest.height)) (size.height * (dest.height / dest.width))
      else size.components := by
  have hkeeps {e : K} (he : 0 < e) (c : K) : e / (e / c) = c := div_div_cancel₀ he.ne'
  have hoff (e e' c : K) : e / (e' / c) = c * (e / e') := by
    rw [div_div_eq_mul_div, mul_comm, mul_div_assoc]
  unfold shownSize
  by_cases hswapped : swapped
  · rw [if_pos hswapped] at hscale
    obtain ⟨hx, hy⟩ := Prod.mk.inj hscale
    rw [hx, hy]
    by_cases hside : u.rotation = 90 ∨ u.rotation = 270
    · rw [if_pos hside, if_neg fun h => h.2 hside, hkeeps hdest.height, hkeeps hdest.width]
      rfl
    · rw [if_neg hside, if_pos ⟨hswapped, hside⟩, hoff, hoff]
  · rw [if_neg hswapped] at hscale
    obtain ⟨hx, hy⟩ := Prod.mk.inj hscale
    rw [hx, hy, if_neg fun h => hswapped (hturned h), if_neg fun h => hswapped h.1,
      hkeeps hdest.width, hkeeps hdest.height]
    rfl

variable [IsStrictOrderedRing K]

omit [FloorRing K] in
/-- No positive ratio makes an extent its own opposite. -/
theorem ne_neg_of_mul_pos {c ratio : K} (hc : c ≠ 0) (hratio : 0 < ratio) : c * ratio ≠ -c := by
  intro h
  have hzero : c * (ratio + 1) = 0 := by linear_combination h
  rcases mul_eq_zero.mp hzero with hzero | hzero
  · exact hc hzero
  · linarith

/-- **The texture is drawn as the source item is turned**, in the size that is worked out for it
and in the middle of `dest`, just in case the source item has been turned by quarter turns, or
`dest` is a square. In a square, an item that has been turned otherwise is drawn upright.

`drawsPicture_iff` compares two placements of the picture in `dest`, the one the shader computes and
the one asked for, and `samePicture_iff` of the library says when two placements are the same. -/
theorem draws_picture_iff {s : Shader} (hs : s.samples = true) (n : Numbers K)
    (state : RenderState K) (w : UniformWriter) (mat : Material K)
    (htexture : source.textureSize = some textureSize) (hempty : textureSize.isEmpty = false)
    (hdest : it.dest.NonEmpty)
    (hwidth : (it.sourceSize source devicePixelRatio textureSize).width ≠ 0)
    (hheight : (it.sourceSize source devicePixelRatio textureSize).height ≠ 0) (k : Nat) :
    DrawsPicture
        (s.itemUniforms n state w (mat.updateSampledMaterial it source devicePixelRatio)) it.dest
        (it.sourceSize source devicePixelRatio textureSize).components k ↔
      k % 4 = quarterTurns (truncate source.rotation) ∧
        (90 ∣ truncate source.rotation ∨ it.dest.width = it.dest.height) := by
  obtain ⟨hrotation, hmatdest, hscale⟩ :=
    updateSampledMaterial_eq it source devicePixelRatio mat htexture hempty hdest
  generalize mat.updateSampledMaterial it source devicePixelRatio = mat'
    at hrotation hmatdest hscale ⊢
  generalize it.sourceSize source devicePixelRatio textureSize = size at hwidth hheight hscale ⊢
  have hwidth : (size.components : Vec2 K).x ≠ 0 := Int.cast_ne_zero.mpr hwidth
  have hheight : (size.components : Vec2 K).y ≠ 0 := Int.cast_ne_zero.mpr hheight
  generalize hu : s.itemUniforms n state w mat' = u
  rw [itemUniforms_eq hs] at hu
  -- what the shader is given is what the material was told
  have hturns : u.rotation = source.materialRotation := by
    rw [← hu]
    exact hrotation
  have hudest : u.dest = ofRect it.dest := by
    rw [← hu, ← hmatdest]
  have hshown := shownSize_eq (u := u) hdest
    (fun hside => (materialRotation_tmod source).mpr (.inr (hturns ▸ hside)))
    (by rw [← hu]; exact hscale)
  simp only [hturns, swapped_iff] at hshown
  have hlt := shaderTurns_lt u.rotation
  rw [drawsPicture_iff hdest hudest (by rw [← hu]), samePicture_iff hwidth hheight, hshown]
  rw [hturns, shaderTurns_materialRotation] at hlt ⊢
  -- by quarter turns the shader does what the scale factors were worked out for
  by_cases hquarter : 90 ∣ truncate source.rotation
  · rw [if_neg (not_not.mpr hquarter)]
    constructor
    · rintro (⟨hturns, -⟩ | ⟨-, hopposite⟩)
      · exact ⟨by omega, .inl hquarter⟩
      · exact absurd ((mul_one _).trans (congrFun hopposite 0))
          (ne_neg_of_mul_pos hwidth one_pos)
    · rintro ⟨hturns, -⟩
      exact .inl ⟨by omega, rfl⟩
  · have hratio : 0 < it.dest.width / it.dest.height := div_pos hdest.width hdest.height
    rw [if_pos hquarter]
    -- the other half of the picture would be the same upside down, which no size allows
    constructor
    · rintro (⟨hturns, hsame⟩ | ⟨-, hopposite⟩)
      · refine ⟨by omega, .inr ?_⟩
        exact (div_eq_one_iff_eq hdest.height.ne').mp
          (mul_left_cancel₀ hwidth ((congrFun hsame 0).trans (mul_one _).symm))
      · exact absurd (congrFun hopposite 0) (ne_neg_of_mul_pos hwidth hratio)
    · rintro ⟨hturns, hquarter' | hsquare⟩
      · exact absurd hquarter' hquarter
      · refine .inl ⟨by omega, ?_⟩
        rw [hsquare, div_self hdest.height.ne', mul_one, mul_one]
        rfl

end Picture

/-- An image that has been turned to the left. -/
def turnedImage : SourceItem Rat where
  rotation := -90
  scale := 1
  width := 80
  height := 60
  textureSize := some ⟨80, 60⟩
  fillMode := some .preserveAspectFit

/-- An item twice as wide as it is high. -/
def wideItem : Item Rat :=
  { (.new : Item Rat) with width := 200, height := 100, dest := ⟨0, 0, 200, 100⟩ }

/-- A material that has not been set. -/
def blankMaterial : Material Rat where
  baseUniforms := ⟨![0, 0, 0, 0], ![0, 0, 0, 0], ![0, 0, 0, 0], 0, 0, 0⟩
  color := ![0, 0, 0, 0]
  dest := ⟨0, 0, 0, 0⟩
  rotation := 0
  xScale := 1
  yScale := 1
  point _ := ⟨0, 0⟩

/-- The image is drawn in its own size. -/
theorem sourceSize_turnedImage : wideItem.sourceSize turnedImage 1 ⟨80, 60⟩ = ⟨80, 60⟩ := by
  decide +kernel

theorem draws_picture_iff_turnedImage :
    DrawsPicture
      (Shader.itemUniforms ⟨.sampled, false⟩ ⟨fun _ => #v[0, 0, 0, 0], fun _ => #v[0, 0, 0, 0]⟩
        ⟨1, 1⟩ { buf := fun _ => 0, size := 152 }
        (blankMaterial.updateSampledMaterial wideItem turnedImage 1))
      wideItem.dest (wideItem.sourceSize turnedImage 1 ⟨80, 60⟩).components 3 :=
  (draws_picture_iff wideItem turnedImage 1 rfl _ _ _ _ rfl rfl ⟨by decide, by decide⟩
    (by rw [sourceSize_turnedImage]; decide) (by rw [sourceSize_turnedImage]; decide) 3).mpr
    ⟨by decide +kernel, .inl (by decide +kernel)⟩

end SamplerGeometry
