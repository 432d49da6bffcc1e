import WebosFramework.Items.Mesh
import WebosFramework.Qt.Geometry
import Mathlib.Algebra.Field.Rat

/-!
# The meshes of a Beziergon

`generateBodyGeometry` and `generateFringeGeometry` of `Eos/Items/src/beziergon.cpp`. The body is a
grid of vertices whose cells are two triangles each. The fringe is four strips along the edges, of
two rows of vertices each, for the top, the bottom, the left and the right. The shader moves the
vertices to where they belong.

The counts are computed with the checked conversions of `SecureCoding`, and the vertices and indices
are written by the loops. The values of the other `int` expressions are below one of the counts, so
they do not overflow as long as the counts do not. Whether the geometry is a new one or one that
allocates again makes no difference.

**`meshes_filled`**: if the exact counts fit in an `int`, both functions write all of the buffers
that they allocate and nothing else. Every index is below the number of the vertices, a cell of the
body is two triangles of its corners, and a strip is made of its own vertices.

For the body, the indices are seen as triangles and sorted by the cell they belong to
(`filter_twoTriangles`), so that each cell of the grid is shown to have its two. For the fringe,
the base of each strip is shown to be the number of the vertices before it
(`usesOwn_fringeStrips`).
-/

namespace SamplerGeometry.Beziergon

open Loops Qt QSGGeometry SecureCoding

variable {K : Type} [Field K]

/-! ## The body

The two nested loops in the order of their writes, with the counts that the source allocates for
them. The counts are computed in `int`, with an overflow check at each step. -/

/-- The vertex of the body at a place of the grid. With antialiasing the vertices at the border
are moved inwards by one. -/
def bodyVertex (xVertices yVertices : Int) (antialiasing : Bool) (x y : Int) : Vertex K where
  x := (x : K) / ((xVertices - 1 : Int) : K)
  y := (y : K) / ((yVertices - 1 : Int) : K)
  tx := if antialiasing then if x = 0 then 1 else if x = xVertices - 1 then -1 else 0 else 0
  ty := if antialiasing then if y = 0 then 1 else if y = yVertices - 1 then -1 else 0 else 0
  coverage := 1

/-- The six indices of a cell, of which the source converts three and assigns three. -/
def cellIndices (xVertices x y : Int) : List Index :=
  [.assign (y * xVertices + x),
    .assign (y * xVertices + x + 1),
    .int2ushort ((y + 1) * xVertices + x),
    .int2ushort ((y + 1) * xVertices + x),
    .int2ushort ((y + 1) * xVertices + x + 1),
    .assign (y * xVertices + x + 1)]

/-- What the two loops of the body write. The last row and the last column have vertices but no
cells. -/
def bodyWrites (xVertices yVertices : Int) (antialiasing : Bool) : List (MeshWrite K) :=
  forLoop yVertices fun y => forLoop xVertices fun x =>
    .vertex (bodyVertex xVertices yVertices antialiasing x y) ::
      if y < yVertices - 1 ∧ x < xVertices - 1 then (cellIndices xVertices x y).map .index else []

/-- `generateBodyGeometry`, with its counts as the source computes them. Every step of the
computation is checked, and replaced by a bound if it is out of range. -/
def generateBodyGeometry (resolution : QPoint) (antialiasing : Bool) : Option (QSGGeometry K) :=
  let xVertices := checkIntUpper (2 + resolution.x)
  let yVertices := checkIntUpper (2 + resolution.y)
  let vertexCount := multiplicationInt xVertices yVertices
  -- a cell for every vertex but those of the last row and of the last column
  let cells := multiplicationInt (checkIntLower (xVertices - 1)) (checkIntLower (yVertices - 1))
  let numTriangles := checkIntUpper (cells * 2)
  let indexCount := checkIntUpper (numTriangles * 3)
  generate vertexCount indexCount (bodyWrites xVertices yVertices antialiasing)

/-! ## The fringe

Four strips along the edges, each with its own vertices. A strip ends with a loop over its quads. -/

/-- The loop that ends each strip. -/
def stripIndices (base n : Int) : List Index :=
  forLoop n fun i =>
    [.int2ushort (checkIntUpper (base + i * 2)),
      .int2ushort (checkIntUpper (base + i * 2 + 2)),
      .int2ushort (checkIntUpper (base + i * 2 + 1)),
      .int2ushort (checkIntUpper (base + i * 2 + 1)),
      .int2ushort (checkIntUpper (base + i * 2 + 2)),
      .int2ushort (checkIntUpper (base + i * 2 + 3))]

/-- `alpha0` of the top and the left strip, where `i` is 0, and of the bottom and the right strip,
where it is 1. -/
def alpha0 (i : Int) : K := if i = 0 then 0 else 1

/-- The other row of the strip. -/
def alpha1 (i : Int) : K := 1 - alpha0 i

/-- The strip at the top or the bottom. -/
def rowStrip (resolution : QPoint) (y : Int) : List (MeshWrite K) :=
  [.vertex ⟨0, y, -1, -1, 0⟩, .vertex ⟨0, y, -1, 1, 0⟩,
    .vertex ⟨0, y, 1, -1, alpha0 y⟩, .vertex ⟨0, y, 1, 1, alpha1 y⟩] ++
  (forLoop resolution.x fun x =>
    let vx := ((x + 1 : Int) : K) / ((resolution.x + 1 : Int) : K)
    [.vertex ⟨vx, y, 0, -1, alpha0 y⟩, .vertex ⟨vx, y, 0, 1, alpha1 y⟩]) ++
  [.vertex ⟨1, y, -1, -1, alpha0 y⟩, .vertex ⟨1, y, -1, 1, alpha1 y⟩,
    .vertex ⟨1, y, 1, -1, 0⟩, .vertex ⟨1, y, 1, 1, 0⟩] ++
  (stripIndices (y * 2 * (resolution.x + 4)) (resolution.x + 3)).map .index

/-- The strip at the left or the right. -/
def columnStrip (resolution : QPoint) (x : Int) : List (MeshWrite K) :=
  [.vertex ⟨x, 0, -1, 1, alpha0 x⟩, .vertex ⟨x, 0, 1, 1, alpha1 x⟩] ++
  (forLoop resolution.y fun y =>
    let vy := ((y + 1 : Int) : K) / ((resolution.y + 1 : Int) : K)
    [.vertex ⟨x, vy, -1, 0, alpha0 x⟩, .vertex ⟨x, vy, 1, 0, alpha1 x⟩]) ++
  [.vertex ⟨x, 1, -1, -1, alpha0 x⟩, .vertex ⟨x, 1, 1, -1, alpha1 x⟩] ++
  (stripIndices (4 * (resolution.x + 4) + x * (4 + resolution.y * 2)) (resolution.y + 1)).map
    .index

/-- The two loops of the fringe: top and bottom, and then left and right. -/
def fringeWrites (resolution : QPoint) : List (MeshWrite K) :=
  forLoop 2 (rowStrip resolution) ++ forLoop 2 (columnStrip resolution)

/-- `generateFringeGeometry`, with its counts as the source computes them. -/
def generateFringeGeometry (resolution : QPoint) : Option (QSGGeometry K) :=
  let vertexCount := checkIntUpper (2 * (6 + 2 * resolution.x) + 2 * (6 + 2 * resolution.y))
  let numTriangles := checkIntUpper (2 * (6 + 2 * resolution.x) + 2 * (2 + 2 * resolution.y))
  let indexCount := checkIntUpper (numTriangles * 3)
  generate vertexCount indexCount (fringeWrites resolution)

/-! ## Resolutions

The counts of a mesh, without a limit. What they have to fit in is an `int`. -/

/-- The exact counts of the body fit in an `int`. -/
def BodyFits (resolution : QPoint) : Prop :=
  (resolution.x + 2) * (resolution.y + 2) ≤ INT_MAX ∧
  (resolution.x + 1) * (resolution.y + 1) * 6 ≤ INT_MAX

/-- The exact counts of the fringe fit in an `int`. -/
def FringeFits (resolution : QPoint) : Prop :=
  24 + 4 * resolution.x + 4 * resolution.y ≤ INT_MAX ∧
  (16 + 4 * resolution.x + 4 * resolution.y) * 3 ≤ INT_MAX

/-! ## The grid of the body

The vertices have row-major numbers, so an index can be read as a place of the grid. -/

/-- The number of a vertex, row-major, as the loops write them. -/
def vertexNumber (xVertices x y : Int) : Int := y * xVertices + x

/-- The corners that the indices of a cell stand for. -/
def cellPoints (x y : Int) : List (Int × Int) :=
  [(x, y), (x + 1, y), (x, y + 1), (x, y + 1), (x + 1, y + 1), (x + 1, y)]

/-- Whatever is converted, the indices of a cell are the numbers of its corners. -/
theorem value_cellIndices (xVertices x y : Int) :
    (cellIndices xVertices x y).map Index.value
      = (cellPoints x y).map fun p => vertexNumber xVertices p.1 p.2 := by
  simp only [cellIndices, cellPoints, vertexNumber, List.map_cons, List.map_nil, Index.value,
    Int.add_assoc]

/-- A place of the grid has a number below their count. -/
theorem vertexNumber_bounds {w h x y : Int} (hx : 0 ≤ x ∧ x < w) (hy : 0 ≤ y ∧ y < h) :
    0 ≤ vertexNumber w x y ∧ vertexNumber w x y < w * h := by
  have hrow : 0 ≤ y * w := Int.mul_nonneg hy.1 (by omega)
  have hrows : (y + 1) * w ≤ h * w := Int.mul_le_mul_of_nonneg_right (by omega) (by omega)
  rw [Int.add_mul, Int.mul_comm h w] at hrows
  show 0 ≤ y * w + x ∧ y * w + x < w * h
  omega

/-- A point of a cell is in the grid. -/
theorem bounds_of_mem_cellPoints {w h x y : Int} (hx : 0 ≤ x ∧ x + 1 < w) (hy : 0 ≤ y ∧ y + 1 < h)
    {p : Int × Int} (hp : p ∈ cellPoints x y) :
    (0 ≤ p.1 ∧ p.1 < w) ∧ (0 ≤ p.2 ∧ p.2 < h) := by
  simp only [cellPoints, List.mem_cons, List.not_mem_nil, or_false] at hp
  rcases hp with rfl | rfl | rfl | rfl | rfl | rfl <;> exact ⟨by omega, by omega⟩

/-- The vertices are written row by row, one for each place of the grid. -/
theorem vertices_bodyWrites (xVertices yVertices : Int) (antialiasing : Bool) :
    vertices (bodyWrites (K := K) xVertices yVertices antialiasing)
      = forLoop yVertices fun y => forLoop xVertices fun x =>
          [bodyVertex xVertices yVertices antialiasing x y] := by
  have hcell (c : Prop) [Decidable c] (is : List Index) :
      vertices (if c then is.map (MeshWrite.index (K := K)) else []) = [] := by
    split
    · exact vertices_map_index is
    · rfl
  simp only [bodyWrites, vertices_forLoop, vertices_vertex, hcell]

section Body

variable {r : QPoint} (hx : 0 ≤ r.x) (hy : 0 ≤ r.y) (antialiasing : Bool)

include hx hy in
/-- The last row and the last column start no cell. So the nested loops with a condition inside
write what two shorter loops would write without one. -/
theorem indices_bodyWrites :
    indices (bodyWrites (K := K) (r.x + 2) (r.y + 2) antialiasing)
      = forLoop (r.y + 1) fun y => forLoop (r.x + 1) fun x => cellIndices (r.x + 2) x y := by
  have hcell (c : Prop) [Decidable c] (is : List Index) :
      indices (if c then is.map (MeshWrite.index (K := K)) else []) = if c then is else [] := by
    split
    · exact indices_map_index is
    · rfl
  have hrow (y : Int) :
      (forLoop (r.x + 2) fun x =>
        if y < r.y + 1 ∧ x < r.x + 1 then cellIndices (r.x + 2) x y else [])
        = if y < r.y + 1 then forLoop (r.x + 1) fun x => cellIndices (r.x + 2) x y else [] := by
    split
    · next hlt =>
      simp only [hlt, true_and]
      exact forLoop_guard (by omega) (by omega)
    · next hge => exact forLoop_nil fun x _ _ => if_neg fun hc => hge hc.1
  have hcells (n : Int) : n + 2 - 1 = n + 1 := by omega
  simp only [bodyWrites, indices_forLoop, indices_vertex, hcell, hcells, hrow]
  exact forLoop_guard (by omega) (by omega)

include hx hy in
/-- So many vertices as there are places. -/
theorem length_vertices_bodyWrites :
    ((vertices (bodyWrites (K := K) (r.x + 2) (r.y + 2) antialiasing)).length : Int)
      = (r.x + 2) * (r.y + 2) := by
  rw [vertices_bodyWrites, length_rowMajor (k := 1) (by omega) (by omega) fun x y => rfl,
    Int.mul_one]

include hx hy in
/-- Six indices for each cell. -/
theorem length_indices_bodyWrites :
    ((indices (bodyWrites (K := K) (r.x + 2) (r.y + 2) antialiasing)).length : Int)
      = (r.x + 1) * (r.y + 1) * 6 := by
  rw [indices_bodyWrites hx hy]
  exact length_rowMajor (by omega) (by omega) fun x y => rfl

include hx hy in
/-- Every index is the number of a vertex. -/
theorem mem_indices_bodyWrites {i : Index}
    (hi : i ∈ indices (bodyWrites (K := K) (r.x + 2) (r.y + 2) antialiasing)) :
    0 ≤ i.value ∧ i.value < (r.x + 2) * (r.y + 2) := by
  rw [indices_bodyWrites hx hy, mem_forLoop] at hi
  obtain ⟨y, hiny, hi⟩ := hi
  obtain ⟨x, hinx, hi⟩ := mem_forLoop.1 hi
  have hmem : i.value ∈ (cellPoints x y).map fun p => vertexNumber (r.x + 2) p.1 p.2 := by
    rw [← value_cellIndices]
    exact List.mem_map_of_mem hi
  obtain ⟨p, hp, hval⟩ := List.mem_map.1 hmem
  obtain ⟨hp1, hp2⟩ :=
    bounds_of_mem_cellPoints (w := r.x + 2) (h := r.y + 2) (by omega) (by omega) hp
  rw [← hval]
  exact vertexNumber_bounds hp1 hp2

end Body

/-! ## The cells of the body

Each cell has six indices, which are two triangles of its own corners. The triangles of all cells
together are those of the loops. -/

/-- The numbers of the four corners of a cell. -/
def corners (xVertices x y : Int) : List Int :=
  [vertexNumber xVertices x y, vertexNumber xVertices (x + 1) y,
    vertexNumber xVertices x (y + 1), vertexNumber xVertices (x + 1) (y + 1)]

/-- All three are corners of the cell. -/
def isOfCell (xVertices x y : Int) (t : Int × Int × Int) : Bool :=
  decide (t.1 ∈ corners xVertices x y) && decide (t.2.1 ∈ corners xVertices x y) &&
    decide (t.2.2 ∈ corners xVertices x y)

/-- The triangles that a list of indices makes of the corners of a cell. -/
def cellTriangles (is : List Index) (xVertices x y : Int) : List (Int × Int × Int) :=
  (triangles (is.map Index.value)).filter (isOfCell xVertices x y)

/-- The triangles that a cell should be made of: the upper left half and the lower right one. -/
def twoTriangles (xVertices x y : Int) : List (Int × Int × Int) :=
  [(vertexNumber xVertices x y, vertexNumber xVertices (x + 1) y, vertexNumber xVertices x (y + 1)),
    (vertexNumber xVertices x (y + 1), vertexNumber xVertices (x + 1) (y + 1),
      vertexNumber xVertices (x + 1) y)]

/-- The six indices of a cell are these two triangles. -/
theorem triangles_cellIndices (xVertices x y : Int) :
    triangles ((cellIndices xVertices x y).map Index.value) = twoTriangles xVertices x y := by
  rw [value_cellIndices]
  rfl

/-- In a grid that is wide enough a number is that of a corner just in case the place is one of
the four. -/
theorem vertexNumber_mem_corners {w a b x y : Int} (ha : 0 ≤ a ∧ a < w) (hx : 0 ≤ x ∧ x + 1 < w) :
    vertexNumber w a b ∈ corners w x y ↔ (a = x ∨ a = x + 1) ∧ (b = y ∨ b = y + 1) := by
  have hx0 : 0 ≤ x ∧ x < w := by omega
  have hx1 : 0 ≤ x + 1 ∧ x + 1 < w := by omega
  simp only [corners, vertexNumber, List.mem_cons, List.not_mem_nil, or_false,
    rowMajor_inj ha hx0, rowMajor_inj ha hx1]
  omega

/-- The triangles of a cell are not made of the corners of another one. A cell is told by the corner
that its triangles begin with, and row-major numbers tell corners apart. -/
theorem filter_twoTriangles {w a b x y : Int} (ha : 0 ≤ a ∧ a + 1 < w) (hx : 0 ≤ x ∧ x + 1 < w) :
    (twoTriangles w a b).filter (isOfCell w x y)
      = if a = x ∧ b = y then twoTriangles w x y else [] := by
  have ha0 : 0 ≤ a ∧ a < w := by omega
  have ha1 : 0 ≤ a + 1 ∧ a + 1 < w := by omega
  -- of each triangle the first corner and the next ones tell the cell
  have hfirst : isOfCell w x y (vertexNumber w a b, vertexNumber w (a + 1) b,
      vertexNumber w a (b + 1)) = decide (a = x ∧ b = y) := by
    simp only [isOfCell, vertexNumber_mem_corners ha0 hx, vertexNumber_mem_corners ha1 hx,
      ← Bool.decide_and]
    exact decide_eq_decide.2 (by omega)
  have hsecond : isOfCell w x y (vertexNumber w a (b + 1), vertexNumber w (a + 1) (b + 1),
      vertexNumber w (a + 1) b) = decide (a = x ∧ b = y) := by
    simp only [isOfCell, vertexNumber_mem_corners ha0 hx, vertexNumber_mem_corners ha1 hx,
      ← Bool.decide_and]
    exact decide_eq_decide.2 (by omega)
  show List.filter _ [_, _] = _
  by_cases hcell : a = x ∧ b = y
  · obtain ⟨rfl, rfl⟩ := hcell
    rw [if_pos ⟨rfl, rfl⟩,
      List.filter_cons_of_pos (hfirst.trans (decide_eq_true ⟨rfl, rfl⟩)),
      List.filter_cons_of_pos (hsecond.trans (decide_eq_true ⟨rfl, rfl⟩))]
    rfl
  · rw [if_neg hcell,
      List.filter_cons_of_neg (by rw [hfirst, decide_eq_true_eq]; exact hcell),
      List.filter_cons_of_neg (by rw [hsecond, decide_eq_true_eq]; exact hcell)]
    rfl

/-- A cell is covered by two triangles. All other cells contribute nothing, by
`filter_twoTriangles`, first along the row and then row by row. -/
theorem cellTriangles_bodyWrites {r : QPoint} (hx : 0 ≤ r.x) (hy : 0 ≤ r.y) (antialiasing : Bool)
    {x y : Int} (hinx : 0 ≤ x ∧ x < r.x + 1) (hiny : 0 ≤ y ∧ y < r.y + 1) :
    cellTriangles (indices (bodyWrites (K := K) (r.x + 2) (r.y + 2) antialiasing)) (r.x + 2) x y
      = twoTriangles (r.x + 2) x y := by
  have hcell : 0 ≤ x ∧ x + 1 < r.x + 2 := by omega
  -- the index list falls into triples, row by row and cell by cell
  have hdvd (b a : Int) : 3 ∣ ((cellIndices (r.x + 2) a b).map Index.value).length := ⟨2, rfl⟩
  have hrow (b : Int) :
      3 ∣ (forLoop (r.x + 1) fun a => (cellIndices (r.x + 2) a b).map Index.value).length := by
    have := length_forLoop (k := 6) (f := fun a => (cellIndices (r.x + 2) a b).map Index.value)
      (show 0 ≤ r.x + 1 by omega) fun a _ _ => rfl
    omega
  -- the triangles are sorted out cell by cell
  have hall :
      cellTriangles (indices (bodyWrites (K := K) (r.x + 2) (r.y + 2) antialiasing)) (r.x + 2) x y
        = forLoop (r.y + 1) fun b => forLoop (r.x + 1) fun a =>
            (twoTriangles (r.x + 2) a b).filter (isOfCell (r.x + 2) x y) := by
    simp only [cellTriangles, indices_bodyWrites hx hy, map_forLoop]
    rw [triangles_forLoop fun b _ _ => hrow b]
    simp only [triangles_forLoop fun a _ _ => hdvd _ a, triangles_cellIndices, filter_forLoop]
  rw [hall, forLoop_select hiny.1 hiny.2, forLoop_select hinx.1 hinx.2,
    filter_twoTriangles hcell hcell]
  · exact if_pos ⟨rfl, rfl⟩
  · -- another column
    intro a h0 ha hax
    rw [filter_twoTriangles (by omega) hcell]
    exact if_neg fun hc => hax hc.1
  · -- another row
    intro b _ _ hby
    refine forLoop_nil fun a h0 ha => ?_
    rw [filter_twoTriangles (by omega) hcell]
    exact if_neg fun hc => hby hc.2

/-- The body has its exact counts, a vertex for each place of the grid and two triangles for each
cell. -/
structure IsBody (resolution : QPoint) (antialiasing : Bool) (g : QSGGeometry K) : Prop where
  filled : g.Filled ((resolution.x + 2) * (resolution.y + 2))
    ((resolution.x + 1) * (resolution.y + 1) * 6)
  grid : ∀ x y, 0 ≤ x ∧ x < resolution.x + 2 → 0 ≤ y ∧ y < resolution.y + 2 →
    g.vertexData.written[(vertexNumber (resolution.x + 2) x y).toNat]?
      = some (bodyVertex (resolution.x + 2) (resolution.y + 2) antialiasing x y)
  cells : ∀ x y, 0 ≤ x ∧ x < resolution.x + 1 → 0 ≤ y ∧ y < resolution.y + 1 →
    cellTriangles g.indexData.written (resolution.x + 2) x y
      = twoTriangles (resolution.x + 2) x y

/-- The counts are exact if they fit. Nothing that is checked on the way is out of range then, as
every step is at most one of the two counts. -/
theorem generateBodyGeometry_eq {r : QPoint} (hx : 0 ≤ r.x) (hy : 0 ≤ r.y) (hfits : BodyFits r)
    (antialiasing : Bool) :
    generateBodyGeometry (K := K) r antialiasing
      = generate ((r.x + 2) * (r.y + 2)) ((r.x + 1) * (r.y + 1) * 6)
          (bodyWrites (r.x + 2) (r.y + 2) antialiasing) := by
  obtain ⟨hvertices, hindices⟩ := hfits
  have hcells : 0 ≤ (r.x + 1) * (r.y + 1) := Int.mul_nonneg (by omega) (by omega)
  -- a row and a column of vertices more than of cells
  have hsplit : (r.x + 2) * (r.y + 2) = (r.x + 1) * (r.y + 1) + (r.x + 2) + (r.y + 1) := by
    rw [show r.x + 2 = r.x + 1 + 1 by omega, show r.y + 2 = r.y + 1 + 1 by omega, Int.add_mul,
      Int.mul_add, Int.mul_one, Int.one_mul]
    omega
  -- none of the checked operations replaces a value
  have hupper (val : Int) (h0 : 0 ≤ val) (hmax : val ≤ INT_MAX) : checkIntUpper val = val :=
    checkIntUpper_of_fits (INT_MIN_le h0) hmax
  have hlower (n : Int) (h0 : 0 ≤ n) (hmax : n + 2 ≤ INT_MAX) :
      checkIntLower (n + 2 - 1) = n + 1 := by
    rw [checkIntLower_of_fits (INT_MIN_le (by omega)) (by omega)]
    omega
  have hxVertices : checkIntUpper (2 + r.x) = r.x + 2 := by
    rw [hupper _ (by omega) (by omega), Int.add_comm]
  have hyVertices : checkIntUpper (2 + r.y) = r.y + 2 := by
    rw [hupper _ (by omega) (by omega), Int.add_comm]
  simp only [generateBodyGeometry, hxVertices, hyVertices]
  rw [multiplicationInt_of_fits (INT_MIN_le (by omega)) hvertices, hlower r.x hx (by omega),
    hlower r.y hy (by omega), multiplicationInt_of_fits (INT_MIN_le hcells) (by omega),
    hupper ((r.x + 1) * (r.y + 1) * 2) (by omega) (by omega),
    hupper ((r.x + 1) * (r.y + 1) * 2 * 3) (by omega) (by omega), Int.mul_assoc _ 2 3]
  rfl

/-- The body is filled with what the loops write. -/
theorem generateBodyGeometry_some {r : QPoint} (hx : 0 ≤ r.x) (hy : 0 ≤ r.y) (hfits : BodyFits r)
    (antialiasing : Bool) :
    ∃ g : QSGGeometry K, generateBodyGeometry r antialiasing = some g ∧
      g.Filled ((r.x + 2) * (r.y + 2)) ((r.x + 1) * (r.y + 1) * 6) ∧
      g.vertexData.written = vertices (bodyWrites (r.x + 2) (r.y + 2) antialiasing) ∧
      g.indexData.written = indices (bodyWrites (K := K) (r.x + 2) (r.y + 2) antialiasing) := by
  rw [generateBodyGeometry_eq hx hy hfits]
  exact generate_filled (length_vertices_bodyWrites hx hy antialiasing)
    (length_indices_bodyWrites hx hy antialiasing)
    fun i hi => mem_indices_bodyWrites hx hy antialiasing hi

/-- The body of a mesh that fits is what it should be. -/
theorem body_filled {r : QPoint} (hx : 0 ≤ r.x) (hy : 0 ≤ r.y) (hfits : BodyFits r)
    (antialiasing : Bool) :
    ∃ g : QSGGeometry K, generateBodyGeometry r antialiasing = some g ∧
      IsBody r antialiasing g := by
  obtain ⟨g, hg, hfilled, hvertices, hindices⟩ :=
    generateBodyGeometry_some (K := K) hx hy hfits antialiasing
  refine ⟨g, hg, hfilled, ?_, ?_⟩
  · intro x y hinx hiny
    rw [hvertices, vertices_bodyWrites]
    exact getElem?_rowMajor _ hinx hiny
  · intro x y hinx hiny
    rw [hindices]
    exact cellTriangles_bodyWrites hx hy antialiasing hinx hiny

/-! ## The strips of the fringe

Each strip writes its indices relative to a base, which has to be the number of vertices written
before it. The bases are checked strip by strip. -/

/-- The strips in the order in which they are written: top, bottom, left and right. -/
def fringeStrips (resolution : QPoint) : List (List (MeshWrite K)) :=
  [rowStrip resolution 0, rowStrip resolution 1, columnStrip resolution 0,
    columnStrip resolution 1]

/-- The loops write the four strips in their order. -/
theorem fringeWrites_eq (r : QPoint) : fringeWrites (K := K) r = (fringeStrips r).flatten := by
  have htwo (body : Int → List (MeshWrite K)) : forLoop 2 body = body 0 ++ body 1 := by
    show body 0 ++ (body 1 ++ []) = body 0 ++ body 1
    rw [List.append_nil]
  show forLoop 2 (rowStrip r) ++ forLoop 2 (columnStrip r)
    = rowStrip r 0 ++ (rowStrip r 1 ++ (columnStrip r 0 ++ (columnStrip r 1 ++ [])))
  rw [htwo, htwo, List.append_nil, List.append_assoc]

/-- The values of the indices of a strip are the numbers of the vertices that the strip writes. -/
def UsesOwn (before strip : List (MeshWrite K)) : Prop :=
  ∀ v : Int, (∃ i ∈ indices strip, i.value = v) ↔
    (vertices before).length ≤ v ∧ v < (vertices before).length + (vertices strip).length

/-- `n` quads use two vertices more than they have pairs of. Each quad uses its own pair and the
next one, and the checked additions do not leave their range. -/
theorem value_stripIndices {base n : Int} (h0 : 0 ≤ base) (hn : 0 < n)
    (hfits : base + 2 * n + 1 ≤ INT_MAX) (v : Int) :
    (∃ i ∈ stripIndices base n, i.value = v) ↔ base ≤ v ∧ v < base + (2 * n + 2) := by
  -- within the bounds a checked index is the index itself
  have hcheck (k : Int) (hk : 0 ≤ k ∧ k ≤ base + 2 * n + 1) : checkIntUpper k = k :=
    checkIntUpper_of_fits (INT_MIN_le hk.1) (by omega)
  have hquad (q v : Int) (hq : 0 ≤ q ∧ q < n) :
      (∃ i ∈ ([.int2ushort (checkIntUpper (base + q * 2)),
        .int2ushort (checkIntUpper (base + q * 2 + 2)),
        .int2ushort (checkIntUpper (base + q * 2 + 1)),
        .int2ushort (checkIntUpper (base + q * 2 + 1)),
        .int2ushort (checkIntUpper (base + q * 2 + 2)),
        .int2ushort (checkIntUpper (base + q * 2 + 3))] : List Index), i.value = v)
        ↔ base + q * 2 ≤ v ∧ v ≤ base + q * 2 + 3 := by
    rw [hcheck (base + q * 2) (by omega), hcheck (base + q * 2 + 1) (by omega),
      hcheck (base + q * 2 + 2) (by omega), hcheck (base + q * 2 + 3) (by omega)]
    simp only [List.mem_cons, List.not_mem_nil, or_false, exists_eq_or_imp, exists_eq_left,
      Index.value]
    omega
  constructor
  · intro ⟨i, hi, hv⟩
    obtain ⟨q, hq, hi⟩ := mem_forLoop.1 hi
    have := (hquad q v hq).1 ⟨i, hi, hv⟩
    omega
  · intro hv
    -- the quad that starts at the vertex or just before it, but the last pair has none
    obtain ⟨q, hq, hqv⟩ : ∃ q, (0 ≤ q ∧ q < n) ∧ base + q * 2 ≤ v ∧ v ≤ base + q * 2 + 3 :=
      ⟨min ((v - base) / 2) (n - 1), by omega, by omega⟩
    obtain ⟨i, hi, hiv⟩ := (hquad q v hq).2 hqv
    exact ⟨i, mem_forLoop.2 ⟨q, hq, hi⟩, hiv⟩

section Fringe

variable {r : QPoint}

/-- All vertices of a strip are written before its indices, which are those of `stripIndices`. -/
theorem indices_rowStrip (y : Int) :
    indices (rowStrip (K := K) r y) = stripIndices (y * 2 * (r.x + 4)) (r.x + 3) := by
  simp only [rowStrip, indices_append, indices_forLoop, indices_vertex, indices_nil,
    indices_map_index, forLoop_empty, List.append_nil, List.nil_append]

/-- The same for the strips at the left and the right, with their own bases. -/
theorem indices_columnStrip (x : Int) :
    indices (columnStrip (K := K) r x)
      = stripIndices (4 * (r.x + 4) + x * (4 + r.y * 2)) (r.y + 1) := by
  simp only [columnStrip, indices_append, indices_forLoop, indices_vertex, indices_nil,
    indices_map_index, forLoop_empty, List.append_nil, List.nil_append]

omit [Field K] in
/-- Two vertices in each iteration of the loop in the middle. -/
theorem length_vertices_middle {n : Int} (hn : 0 ≤ n) (f g : Int → Vertex K) :
    ((vertices (forLoop n fun i => [.vertex (f i), .vertex (g i)])).length : Int) = 2 * n := by
  rw [vertices_forLoop, length_forLoop (k := 2) hn fun _ _ _ => rfl, Int.mul_comm]

/-- A strip at the top or the bottom has four vertices at each end, and two for each step of the
resolution. -/
theorem length_vertices_rowStrip (hx : 0 ≤ r.x) (y : Int) :
    ((vertices (rowStrip (K := K) r y)).length : Int) = 8 + 2 * r.x := by
  have hmiddle := length_vertices_middle (K := K) hx
  simp only [rowStrip, vertices_append, vertices_map_index, vertices_vertex, vertices_nil,
    List.length_append, List.length_cons, List.length_nil, Int.natCast_add, hmiddle]
  omega

/-- A strip at the left or the right has two vertices at each end. -/
theorem length_vertices_columnStrip (hy : 0 ≤ r.y) (x : Int) :
    ((vertices (columnStrip (K := K) r x)).length : Int) = 4 + 2 * r.y := by
  have hmiddle := length_vertices_middle (K := K) hy
  simp only [columnStrip, vertices_append, vertices_map_index, vertices_vertex, vertices_nil,
    List.length_append, List.length_cons, List.length_nil, Int.natCast_add, hmiddle]
  omega

/-- Six indices for each quad. -/
theorem length_stripIndices (base : Int) {n : Int} (hn : 0 ≤ n) :
    ((stripIndices base n).length : Int) = n * 6 :=
  length_forLoop hn fun _ _ _ => rfl

omit [Field K] in
/-- A strip whose base is the number of the vertices before it. -/
theorem usesOwn_of_base {before strip : List (MeshWrite K)} {base n : Int}
    (hindices : indices strip = stripIndices base n) (hn : 0 < n)
    (hbase : (vertices before).length = base)
    (hlength : ((vertices strip).length : Int) = 2 * n + 2) (hfits : base + 2 * n + 1 ≤ INT_MAX) :
    UsesOwn before strip := by
  intro v
  rw [hindices, value_stripIndices (by omega) hn hfits, hbase, hlength]

/-- The bases of the four strips, each of which is the number of the vertices that the strips
before it have written. A strip at another place of the list does not exist. -/
theorem usesOwn_fringeStrips (hx : 0 ≤ r.x) (hy : 0 ≤ r.y) (hfits : FringeFits r)
    {before after : List (List (MeshWrite K))} {strip : List (MeshWrite K)}
    (h : fringeStrips r = before ++ strip :: after) : UsesOwn before.flatten strip := by
  have hvertices := hfits.1
  have hrow := length_vertices_rowStrip (K := K) hx
  have hcolumn := length_vertices_columnStrip (K := K) hy
  have htop : UsesOwn ([] : List (MeshWrite K)) (rowStrip r 0) :=
    usesOwn_of_base (indices_rowStrip 0) (by omega) (by simp) (by rw [hrow]; omega) (by omega)
  have hbottom : UsesOwn (K := K) (rowStrip r 0) (rowStrip r 1) :=
    usesOwn_of_base (indices_rowStrip 1) (by omega) (by rw [hrow]; omega) (by rw [hrow]; omega)
      (by omega)
  have hleft : UsesOwn (K := K) (rowStrip r 0 ++ rowStrip r 1) (columnStrip r 0) := by
    refine usesOwn_of_base (indices_columnStrip 0) (by omega) ?_ (by rw [hcolumn]; omega) (by omega)
    rw [vertices_append, List.length_append, Int.natCast_add, hrow, hrow]
    omega
  have hright : UsesOwn (K := K) (rowStrip r 0 ++ (rowStrip r 1 ++ columnStrip r 0))
      (columnStrip r 1) := by
    refine usesOwn_of_base (indices_columnStrip 1) (by omega) ?_ (by rw [hcolumn]; omega) (by omega)
    rw [vertices_append, vertices_append, List.length_append, List.length_append, Int.natCast_add,
      Int.natCast_add, hrow, hrow, hcolumn]
    omega
  have hlen := congrArg List.length h
  simp only [fringeStrips, List.length_append, List.length_cons, List.length_nil] at h hlen
  rcases before with - | ⟨_, - | ⟨_, - | ⟨_, - | ⟨_, before⟩⟩⟩⟩ <;>
    simp only [List.cons_append, List.nil_append, List.cons.injEq] at h
  · obtain ⟨rfl, -⟩ := h
    exact htop
  · obtain ⟨rfl, rfl, -⟩ := h
    simpa using hbottom
  · obtain ⟨rfl, rfl, rfl, -⟩ := h
    simpa using hleft
  · obtain ⟨rfl, rfl, rfl, rfl, -⟩ := h
    simpa using hright
  · simp only [List.length_cons] at hlen
    omega

/-- As many vertices as the source allocates. -/
theorem length_vertices_fringeWrites (hx : 0 ≤ r.x) (hy : 0 ≤ r.y) :
    ((vertices (fringeWrites (K := K) r)).length : Int) = 24 + 4 * r.x + 4 * r.y := by
  have hrow := length_vertices_rowStrip (K := K) hx
  have hcolumn := length_vertices_columnStrip (K := K) hy
  rw [fringeWrites_eq]
  simp only [fringeStrips, List.flatten_cons, List.flatten_nil, List.append_nil, vertices_append,
    List.length_append, Int.natCast_add, hrow, hcolumn]
  omega

/-- As many indices as the source allocates. -/
theorem length_indices_fringeWrites (hx : 0 ≤ r.x) (hy : 0 ≤ r.y) :
    ((indices (fringeWrites (K := K) r)).length : Int) = (16 + 4 * r.x + 4 * r.y) * 3 := by
  have hrow (base : Int) := length_stripIndices base (show 0 ≤ r.x + 3 by omega)
  have hcolumn (base : Int) := length_stripIndices base (show 0 ≤ r.y + 1 by omega)
  rw [fringeWrites_eq]
  simp only [fringeStrips, List.flatten_cons, List.flatten_nil, List.append_nil, indices_append,
    indices_rowStrip, indices_columnStrip, List.length_append, Int.natCast_add, hrow, hcolumn]
  omega

/-- Every index is the number of a vertex, as it is one of its own strip. -/
theorem mem_indices_fringeWrites (hx : 0 ≤ r.x) (hy : 0 ≤ r.y) (hfits : FringeFits r) {i : Index}
    (hi : i ∈ indices (fringeWrites (K := K) r)) :
    0 ≤ i.value ∧ i.value < 24 + 4 * r.x + 4 * r.y := by
  rw [fringeWrites_eq] at hi
  obtain ⟨strip, hstrip, hi⟩ : ∃ strip ∈ fringeStrips r, i ∈ indices (K := K) strip := by
    simpa only [indices, List.filterMap_flatten, List.mem_flatten, List.mem_map,
      exists_exists_and_eq_and] using hi
  obtain ⟨before, after, h⟩ := List.append_of_mem hstrip
  have hown := (usesOwn_fringeStrips hx hy hfits h i.value).1 ⟨i, hi, rfl⟩
  have htotal := length_vertices_fringeWrites (K := K) hx hy
  rw [fringeWrites_eq, h, List.flatten_append, List.flatten_cons, vertices_append,
    vertices_append, List.length_append, List.length_append] at htotal
  omega

end Fringe

/-- The fringe has its exact counts, and is made of strips that use their own vertices. -/
structure IsFringe (resolution : QPoint) (g : QSGGeometry K) : Prop where
  filled : g.Filled (24 + 4 * resolution.x + 4 * resolution.y)
    ((16 + 4 * resolution.x + 4 * resolution.y) * 3)
  vertexData : g.vertexData.written = vertices (fringeStrips resolution).flatten
  indexData : g.indexData.written = indices (K := K) (fringeStrips resolution).flatten
  strips : ∀ before (strip : List (MeshWrite K)) after,
    fringeStrips resolution = before ++ strip :: after → UsesOwn before.flatten strip

/-- The counts of the fringe are exact if they fit. -/
theorem generateFringeGeometry_eq {r : QPoint} (hx : 0 ≤ r.x) (hy : 0 ≤ r.y)
    (hfits : FringeFits r) :
    generateFringeGeometry (K := K) r
      = generate (24 + 4 * r.x + 4 * r.y) ((16 + 4 * r.x + 4 * r.y) * 3) (fringeWrites r) := by
  obtain ⟨hvertices, hindices⟩ := hfits
  have hvertexCount : checkIntUpper (2 * (6 + 2 * r.x) + 2 * (6 + 2 * r.y))
      = 24 + 4 * r.x + 4 * r.y := by
    rw [checkIntUpper_of_fits (INT_MIN_le (by omega)) (by omega)]
    omega
  have hnumTriangles : checkIntUpper (2 * (6 + 2 * r.x) + 2 * (2 + 2 * r.y))
      = 16 + 4 * r.x + 4 * r.y := by
    rw [checkIntUpper_of_fits (INT_MIN_le (by omega)) (by omega)]
    omega
  simp only [generateFringeGeometry, hvertexCount, hnumTriangles]
  rw [checkIntUpper_of_fits (INT_MIN_le (by omega)) hindices]

/-- The fringe of a mesh that fits is what it should be. -/
theorem fringe_filled {r : QPoint} (hx : 0 ≤ r.x) (hy : 0 ≤ r.y) (hfits : FringeFits r) :
    ∃ g : QSGGeometry K, generateFringeGeometry r = some g ∧ IsFringe r g := by
  obtain ⟨g, hg, hfilled, hvertices, hindices⟩ := generate_filled (K := K)
    (length_vertices_fringeWrites hx hy) (length_indices_fringeWrites hx hy)
    (fun i hi => mem_indices_fringeWrites hx hy hfits hi)
  rw [fringeWrites_eq] at hvertices hindices
  exact ⟨g, (generateFringeGeometry_eq hx hy hfits).trans hg, hfilled, hvertices, hindices,
    fun _ _ _ h => usesOwn_fringeStrips hx hy hfits h⟩

/-- **The meshes are filled exactly** at every resolution whose counts fit in an `int`, with and
without antialiasing. `Filled` says that both buffers are full; what they are full of is in
`IsBody` and `IsFringe`.

The body and the fringe are built by loops of writes; `body_filled` and `fringe_filled` count them
against what was allocated. -/
theorem meshes_filled (K : Type) [Field K] {r : QPoint} (hx : 0 ≤ r.x) (hy : 0 ≤ r.y)
    (antialiasing : Bool) :
    (BodyFits r → ∃ g : QSGGeometry K, generateBodyGeometry r antialiasing = some g ∧
      IsBody r antialiasing g) ∧
    (FringeFits r → ∃ g : QSGGeometry K, generateFringeGeometry r = some g ∧ IsFringe r g) :=
  ⟨fun hfits => body_filled hx hy hfits antialiasing, fringe_filled hx hy⟩

/-- The resolution of the comment in the source, which has 16 vertices in its body. -/
theorem meshes_filled_two :
    (∃ g : QSGGeometry ℚ, generateBodyGeometry ⟨2, 2⟩ true = some g ∧ IsBody ⟨2, 2⟩ true g) ∧
    ∃ g : QSGGeometry ℚ, generateFringeGeometry ⟨2, 2⟩ = some g ∧ IsFringe ⟨2, 2⟩ g := by
  have h := meshes_filled ℚ (r := ⟨2, 2⟩) (by decide) (by decide) true
  exact ⟨h.1 (show _ ∧ _ by decide), h.2 (show _ ∧ _ by decide)⟩

end SamplerGeometry.Beziergon
