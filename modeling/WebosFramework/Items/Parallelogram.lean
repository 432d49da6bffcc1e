import Mathlib.Analysis.SpecialFunctions.Trigonometric.Basic
import WebosFramework.Items.Mesh
import WebosFramework.Items.SamplerGeometry
import WebosFramework.Lib.Raster
import WebosFramework.Qt.Rectangles

/-!
# Parallelograms

`Parallelogram` of `Eos/Items/src/parallelogram.cpp` is an item that leans: its upper edge is moved
to the right of its lower edge by `offset`. Its body is two triangles. An antialiased one is a
little smaller, and has a fringe around it whose outer vertices are transparent.

Numbers come from an ordered field, so that there is no rounding. What the source takes from
`math.h` is a parameter.

**`contains_iff_drawn`**: without antialiasing, a point belongs to the item just in case it is in
one of the two triangles.

Both sides of the theorem come down to a description of the rows: hit testing asks whether a point
lies between the two slanted sides (`contains_iff_row`), and the two triangles make up the
parallelogram of `Lib.Raster`, each point of which is given by how far down and how far to the
right it is.
-/

namespace SamplerGeometry

open Loops Qt QSGGeometry Raster

/-- `M_PI` and the functions of `math.h`. -/
structure MathH (K : Type) where
  pi : K
  sin : K → K
  cos : K → K
  tan : K → K

/-- The functions as mathematics knows them. -/
noncomputable def MathH.real : MathH ℝ := ⟨Real.pi, Real.sin, Real.cos, Real.tan⟩

/-- The item with its angle and with the offset that follows from it. -/
structure Parallelogram (K : Type) extends Item K where
  angle : K
  offset : K

/-- The class of the sampled material. -/
inductive SampledMaterialType where
  | sampledMaterial
  | simpleSampledMaterial
  deriving DecidableEq

/-- The texture coordinates are those of the vertex. -/
def Vertex.set {K : Type} (xx yy cc : K) : Vertex K where
  x := xx
  y := yy
  tx := xx
  ty := yy
  coverage := cc

namespace Parallelogram

variable {K : Type} [Field K] (m : MathH K) (p : Parallelogram K)

/-- `updateOffset`: from the angle and the height. The slot is connected to changes of the height
as well. -/
def updateOffset : Parallelogram K :=
  { p with offset := m.tan (p.angle * m.pi / 180) * p.height, geometryDirty := true }

section

variable [LinearOrder K]

/-- `setAngle`, with a fuzzy comparison as in the source. -/
def setAngle (angle : K) : Parallelogram K :=
  if qFuzzyCompare p.angle angle then p
  else { p with angle, geometryDirty := true }.updateOffset m

/-- `offsetAt(y)`: how far to the right the left side is at this height. An item without height
has no slope. -/
def offsetAt (y : K) : K :=
  if qFuzzyCompare p.height 0 then 0 else p.offset - p.offset / p.height * y

/-- `contains`, which is asked when the mouse is over the item. -/
def contains (point : QPointF K) : Bool :=
  if point.y < 0 ∨ point.y > p.height then false
  else
    let offsetAtY := p.offsetAt point.y
    if point.x < offsetAtY ∨ point.x > p.width - p.offset + offsetAtY then false else true

/-- `createSampledMaterial`: the simple shader is enough if `dest` covers the item, or if colors
at the edge are to be repeated. -/
def createSampledMaterial : SampledMaterialType :=
  if p.dest.contains ⟨0, 0, p.width, p.height⟩ || p.clampToEdge then .simpleSampledMaterial
  else .sampledMaterial

end

/-! ## The body and the fringe

Both geometries with all their vertices and indices, in the order of the source. -/

/-- How far the body of an antialiased item is narrower at each side, as is the fringe wider. -/
def xOff : K := m.cos (p.angle * m.pi / 180)

/-- The same upwards and downwards. -/
def yOff : K := m.sin (p.angle * m.pi / 180)

/-- `yOff2` -/
def fringeHeight : K := 49 / 100

/-- The corners of the body, in the order of the source. -/
def bodyVertices : List (Vertex K) :=
  -- there is no fringe without antialiasing
  let xOff := if p.antialiasing then p.xOff m else 0
  let yOff := if p.antialiasing then p.yOff m else 0
  [.set (0 + p.offset + xOff) (0 + yOff) 1,
    .set (0 + p.width - xOff) (0 + yOff) 1,
    .set (0 + xOff) (0 + p.height - yOff) 1,
    .set (0 + p.width - p.offset - xOff) (0 + p.height - yOff) 1]

/-- The two triangles of the body. -/
def bodyIndices : List Index :=
  [.assign 0, .assign 1, .assign 2, .assign 1, .assign 3, .assign 2]

/-- `generateBodyGeometry` -/
def generateBodyGeometry : Option (QSGGeometry K) :=
  generate 4 (2 * 3) ((p.bodyVertices m).map .vertex ++ bodyIndices.map .index)

/-- The vertices of the fringe, four rows of four. Of the 16 only the four corners of the body are
opaque. -/
def fringeVertices : List (Vertex K) :=
  let xOff := p.xOff m
  let yOff := p.yOff m
  let yOff2 := fringeHeight
  -- top, outer border
  [.set (0 + p.offset - xOff) (0 - yOff2) 0,
    .set (0 + p.offset + xOff) (0 - yOff2) 0,
    .set (0 + p.width - xOff) (0 - yOff2) 0,
    .set (0 + p.width + xOff) (0 - yOff2) 0,
  -- top, inner border
    .set (0 + p.offset - xOff) (0 + yOff) 0,
    .set (0 + p.offset + xOff) (0 + yOff) 1,
    .set (0 + p.width - xOff) (0 + yOff) 1,
    .set (0 + p.width + xOff) (0 + yOff) 0,
  -- bottom, inner border
    .set (0 - xOff) (0 + p.height - yOff) 0,
    .set (0 + xOff) (0 + p.height - yOff) 1,
    .set (0 + p.width - p.offset - xOff) (0 + p.height - yOff) 1,
    .set (0 + p.width - p.offset + xOff) (0 + p.height - yOff) 0,
  -- bottom, outer border
    .set (0 - xOff) (0 + p.height + yOff2) 0,
    .set (0 + xOff) (0 + p.height + yOff2) 0,
    .set (0 + p.width - p.offset - xOff) (0 + p.height + yOff2) 0,
    .set (0 + p.width - p.offset + xOff) (0 + p.height + yOff2) 0]

/-- Two triangles for each of the nine cells but the one in the middle, which is the body. -/
def fringeIndices : List Index :=
  let xVertices := 4
  let yVertices := 4
  forLoop (yVertices - 1) fun y => forLoop (xVertices - 1) fun x =>
    if x = 1 ∧ y = 1 then []
    else
      [.int2ushort (y * xVertices + x),
        .int2ushort (y * xVertices + (x + 1)),
        .int2ushort ((y + 1) * xVertices + x),
        .int2ushort ((y + 1) * xVertices + x),
        .int2ushort ((y + 1) * xVertices + (x + 1)),
        .int2ushort (y * xVertices + (x + 1))]

/-- `generateFringeGeometry` -/
def generateFringeGeometry : Option (QSGGeometry K) :=
  let xVertices := 4
  let yVertices := 4
  let numTriangles := (xVertices - 1) * (yVertices - 1) * 2 - 2
  generate (xVertices * yVertices) (numTriangles * 3)
    ((p.fringeVertices m).map .vertex ++ fringeIndices.map .index)

/-! ## What is drawn

The two triangles of the body, as sets of points. Together they are the parallelogram, row by row.
-/

/-- The counts that are allocated for the body are those that are written, so both buffers are
full. -/
theorem exists_bodyGeometry :
    ∃ g : QSGGeometry K, p.generateBodyGeometry m = some g ∧
      g.vertexData.written = p.bodyVertices m ∧ g.indexData.written = bodyIndices :=
  generate_map (p.bodyVertices m) bodyIndices rfl rfl (by decide)

/-- The same for the fringe. -/
theorem exists_fringeGeometry :
    ∃ g : QSGGeometry K, p.generateFringeGeometry m = some g ∧
      g.vertexData.written = p.fringeVertices m ∧ g.indexData.written = fringeIndices :=
  generate_map (p.fringeVertices m) fringeIndices rfl (by decide) (by decide)

end Parallelogram

/-- The point is one of the triangle, with its sides. -/
def Drawn {K : Type} [Field K] [LinearOrder K] (t : Vertex K × Vertex K × Vertex K)
    (point : QPointF K) : Prop :=
  ∃ w : Weights K, point.x = w.mix t.1.x t.2.1.x t.2.2.x ∧ point.y = w.mix t.1.y t.2.1.y t.2.2.y

namespace Parallelogram

variable {K : Type} [Field K] (m : MathH K) {p : Parallelogram K}

/-- Without antialiasing the two triangles have the corners of the item, and no vertex is narrowed
to another one. -/
theorem exists_bodyTriangles (haliased : p.antialiasing = false) :
    ∃ g, p.generateBodyGeometry m = some g ∧ g.triangles =
      [(.set p.offset 0 1, .set p.width 0 1, .set 0 p.height 1),
        (.set p.width 0 1, .set (p.width - p.offset) p.height 1, .set 0 p.height 1)] := by
  obtain ⟨g, hg, hvertices, hindices⟩ := exists_bodyGeometry m p
  refine ⟨g, hg, ?_⟩
  have hcorners : p.bodyVertices m =
      [.set p.offset 0 1, .set p.width 0 1, .set 0 p.height 1,
        .set (p.width - p.offset) p.height 1] := by
    simp [bodyVertices, haliased]
  unfold QSGGeometry.triangles vertex?
  rw [hvertices, hindices, hcorners]
  rfl

variable [LinearOrder K] [IsStrictOrderedRing K]

/-- A row of the item lies between its two slanted sides. The offset at a row is a linear function
of it, and both sides are moved by it. -/
theorem contains_iff_row (hheight : 0 < p.height) (point : QPointF K) :
    p.contains point = true ↔ (0 ≤ point.y ∧ point.y ≤ p.height) ∧
      p.offset - p.offset / p.height * point.y ≤ point.x ∧
      point.x ≤ p.width - p.offset + (p.offset - p.offset / p.height * point.y) := by
  have hoffset : p.offsetAt point.y = p.offset - p.offset / p.height * point.y := by
    rw [offsetAt, qFuzzyCompare_zero hheight]
    rfl
  unfold contains
  rw [hoffset]
  by_cases hrow : point.y < 0 ∨ point.y > p.height
  case pos =>
    rw [if_pos hrow]
    refine iff_of_false (by simp) fun h => ?_
    rcases hrow with hrow | hrow
    · exact absurd h.1.1 (not_le.mpr hrow)
    · exact absurd h.1.2 (not_le.mpr hrow)
  case neg =>
    rw [if_neg hrow]
    rw [not_or, not_lt, gt_iff_lt, not_lt] at hrow
    rw [and_iff_right hrow]
    simp only [gt_iff_lt, Bool.if_false_left, Bool.and_true, Bool.not_eq_true',
      decide_eq_false_iff_not, not_or, not_lt]

/-- **Hit testing matches what is drawn** without antialiasing: the points of the item are those
of the two triangles of its body. The offset may have either sign, as long as the upper edge does
not turn around.

The triangles cover a parallelogram with the corners of the item, and a point of it has two
coordinates: how far down its row is, and how far to the right it is in the row. `contains` asks for
the same two. -/
theorem contains_iff_drawn (p : Parallelogram K) (hheight : 0 < p.height)
    (hwidth : p.offset ≤ p.width) (haliased : p.antialiasing = false) :
    ∃ g, p.generateBodyGeometry m = some g ∧ g.triangles.length = 2 ∧
      ∀ point, p.contains point = true ↔ ∃ t ∈ g.triangles, Drawn t point := by
  obtain ⟨g, hg, htriangles⟩ := exists_bodyTriangles m haliased
  refine ⟨g, hg, by rw [htriangles]; rfl, fun point => ?_⟩
  have hcorners := mem_parallelogram_iff p.offset 0 p.width 0 0 p.height point.x point.y
  rw [add_zero, zero_add, sub_zero] at hcorners
  have hdrawn : (∃ t ∈ g.triangles, Drawn t point) ↔ ∃ s t : K, (0 ≤ s ∧ s ≤ 1) ∧ (0 ≤ t ∧ t ≤ 1) ∧
      point.x = p.offset + s * (p.width - p.offset) + t * (0 - p.offset) ∧
      point.y = 0 + s * (0 - 0) + t * p.height := by
    rw [htriangles, ← hcorners]
    simp only [List.mem_cons, List.not_mem_nil, or_false, exists_eq_or_imp, exists_eq_left]
    rfl
  rw [contains_iff_row hheight, hdrawn]
  -- how far the left edge has moved where a share `t` of the height has been passed
  have hlean (t : K) : p.offset / p.height * (t * p.height) = t * p.offset := by
    field_simp
  constructor
  · rintro ⟨⟨hy0, hy1⟩, hleft, hright⟩
    -- how far down the row is, and how far to the right the point is within the row
    obtain ⟨t, ht, hy⟩ := exists_mul_eq hy0 hy1
    rw [hy, hlean] at hleft hright
    obtain ⟨s, hs, hx⟩ := exists_mul_eq (d := point.x - (p.offset - t * p.offset))
      (e := p.width - p.offset) (by linarith) (by linarith)
    exact ⟨s, t, hs, ht, by linarith, by linarith⟩
  · -- back from the two shares to the row and the place in it
    rintro ⟨s, t, ⟨hs0, hs1⟩, ⟨ht0, ht1⟩, hx, hy⟩
    have hy : point.y = t * p.height := by linarith
    have hs : 0 ≤ s * (p.width - p.offset) := mul_nonneg hs0 (by linarith)
    have hs' : s * (p.width - p.offset) ≤ p.width - p.offset :=
      mul_le_of_le_one_left (by linarith) hs1
    rw [hy, hlean]
    refine ⟨⟨mul_nonneg ht0 hheight.le, mul_le_of_le_one_left hheight.le ht1⟩, ?_, ?_⟩
    · linarith
    · linarith

/-- A parallelogram whose upper edge is moved to the left. -/
noncomputable def leaningLeft : Parallelogram ℝ where
  width := (10 : Nat)
  height := (3 : Nat)
  dest := ⟨0, 0, (10 : Nat), (3 : Nat)⟩
  antialiasing := false
  angle := (-45 : Int)
  offset := (-3 : Int)

theorem contains_iff_drawn_leaningLeft :
    ∃ g, leaningLeft.generateBodyGeometry .real = some g ∧ g.triangles.length = 2 ∧
      ∀ point, leaningLeft.contains point = true ↔ ∃ t ∈ g.triangles, Drawn t point :=
  contains_iff_drawn .real leaningLeft (by norm_num [leaningLeft]) (by norm_num [leaningLeft]) rfl

end Parallelogram

end SamplerGeometry
