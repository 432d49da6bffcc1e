import WebosFramework.Include.SecureCoding
import WebosFramework.Lib.Loops

/-!
# Meshes

A node of the scene graph is drawn from a `QSGGeometry`: a buffer of vertices, and a buffer of
indices, of which three in a row make a triangle. It allocates as many of both as it is told. The
functions that generate a mesh then write vertices and indices in the order of their loops.

* What such a function writes is a list of `MeshWrite`, and `generate` writes it to the buffers. It
  fails at a write beyond the end of a buffer.
* Indices are stored as `quint16`. An `Index` is the `int` that is to be stored, with the conversion
  that the source applies to it.
* Coordinates come from a field, so that there is no rounding.

**`generate_filled`**: if the counts are those of the writes, `generate` succeeds and both buffers
are full.

Both buffers only grow, so what a list of writes leaves is known from its two parts:
`writes_some`, by induction on the writes. That the writes come from loops does not matter here.
-/

namespace SamplerGeometry

open Loops SecureCoding

/-- A vertex as the attributes of the mesh declare it: the place, the place in the texture, and
how much of it is covered. -/
structure Vertex (K : Type) where
  x : K
  y : K
  tx : K
  ty : K
  coverage : K
  deriving DecidableEq

/-- What is to be stored as an index, and how it is made to fit. -/
inductive Index where
  /-- Assigned as it is. -/
  | assign (value : Int)
  /-- Converted by `int2ushort`. -/
  | int2ushort (value : Int)
  deriving DecidableEq

/-- The number that is meant, before it is narrowed. -/
def Index.value : Index → Int
  | .assign value | .int2ushort value => value

/-- The `quint16` that is stored. The two conversions agree on what fits. -/
def Index.stored : Index → UInt16
  | .assign value => UInt16.ofInt value
  | .int2ushort value => SecureCoding.int2ushort value

/-- A write of a generator, to one of the two buffers. -/
inductive MeshWrite (K : Type) where
  | vertex (v : Vertex K)
  | index (i : Index)
  deriving DecidableEq

/-- The two buffers of a geometry. -/
structure QSGGeometry (K : Type) where
  vertexData : Buffer (Vertex K)
  indexData : Buffer Index

variable {K : Type}

/-- The vertices that are written, in order. -/
def vertices (writes : List (MeshWrite K)) : List (Vertex K) :=
  writes.filterMap fun | .vertex v => some v | .index _ => none

/-- The indices that are written, in order. -/
def indices (writes : List (MeshWrite K)) : List Index :=
  writes.filterMap fun | .vertex _ => none | .index i => some i

/-- Two lists of writes, one after the other: each buffer gets what it gets from the first and
then from the second. So does a loop, body by body. -/
theorem vertices_append (ws us : List (MeshWrite K)) :
    vertices (ws ++ us) = vertices ws ++ vertices us :=
  List.filterMap_append

/-- The same for the indices. -/
theorem indices_append (ws us : List (MeshWrite K)) :
    indices (ws ++ us) = indices ws ++ indices us :=
  List.filterMap_append

/-- The vertices of a loop are those of its bodies. -/
theorem vertices_forLoop (n : Int) (body : Int → List (MeshWrite K)) :
    vertices (forLoop n body) = forLoop n fun i => vertices (body i) :=
  filterMap_forLoop _

/-- And so are the indices. -/
theorem indices_forLoop (n : Int) (body : Int → List (MeshWrite K)) :
    indices (forLoop n body) = forLoop n fun i => indices (body i) :=
  filterMap_forLoop _

@[simp] theorem vertices_nil : vertices ([] : List (MeshWrite K)) = [] := rfl

@[simp] theorem indices_nil : indices ([] : List (MeshWrite K)) = [] := rfl

@[simp] theorem vertices_vertex (v : Vertex K) (ws : List (MeshWrite K)) :
    vertices (.vertex v :: ws) = v :: vertices ws := rfl

@[simp] theorem indices_vertex (v : Vertex K) (ws : List (MeshWrite K)) :
    indices (.vertex v :: ws) = indices ws := rfl

@[simp] theorem vertices_map_vertex (vs : List (Vertex K)) :
    vertices (vs.map MeshWrite.vertex) = vs := by
  induction vs with
  | nil => rfl
  | cons v vs ih => exact congrArg (v :: ·) ih

@[simp] theorem indices_map_vertex (vs : List (Vertex K)) :
    indices (vs.map MeshWrite.vertex) = [] := by
  induction vs with
  | nil => rfl
  | cons v vs ih => exact ih

@[simp] theorem vertices_map_index (is : List Index) :
    vertices (is.map (MeshWrite.index (K := K))) = [] := by
  induction is with
  | nil => rfl
  | cons i is ih => exact ih

@[simp] theorem indices_map_index (is : List Index) :
    indices (is.map (MeshWrite.index (K := K))) = is := by
  induction is with
  | nil => rfl
  | cons i is ih => exact congrArg (i :: ·) ih

namespace QSGGeometry

/-- `allocate`: empty buffers of these sizes. -/
def allocate (vertexCount indexCount : Int) : QSGGeometry K :=
  ⟨.allocate vertexCount, .allocate indexCount⟩

/-- One write, which fails if its buffer is full. -/
def write (g : QSGGeometry K) : MeshWrite K → Option (QSGGeometry K)
  | .vertex v => (g.vertexData.write v).map fun vertexData => { g with vertexData }
  | .index i => (g.indexData.write i).map fun indexData => { g with indexData }

/-- All writes of a generator, to a geometry that has been allocated for them. -/
def generate (vertexCount indexCount : Int) (writes : List (MeshWrite K)) :
    Option (QSGGeometry K) :=
  writes.foldlM write (allocate vertexCount indexCount)

/-- The vertex that an index stands for, after narrowing. -/
def vertex? (g : QSGGeometry K) (i : Index) : Option (Vertex K) :=
  g.vertexData.written[i.stored.toNat]?

/-- The corners of what is drawn, for `GL_TRIANGLES`. -/
def triangles (g : QSGGeometry K) : List (Vertex K × Vertex K × Vertex K) :=
  (Loops.triangles g.indexData.written).filterMap fun (i, j, k) =>
    match g.vertex? i, g.vertex? j, g.vertex? k with
    | some u, some v, some w => some (u, v, w)
    | _, _, _ => none

/-- What an index stands for has been written. -/
theorem mem_written_of_vertex? {g : QSGGeometry K} {i : Index} {v : Vertex K}
    (h : g.vertex? i = some v) : v ∈ g.vertexData.written :=
  List.mem_of_getElem? h

/-- The corners of what is drawn are vertices of the mesh. -/
theorem mem_written_of_mem_triangles {g : QSGGeometry K} {u v w : Vertex K}
    (h : (u, v, w) ∈ g.triangles) :
    u ∈ g.vertexData.written ∧ v ∈ g.vertexData.written ∧ w ∈ g.vertexData.written := by
  obtain ⟨⟨i, j, k⟩, -, hijk⟩ := List.mem_filterMap.mp h
  dsimp only at hijk
  split at hijk
  · rename_i hi hj hk
    obtain ⟨rfl, rfl, rfl⟩ := by simpa using hijk
    exact ⟨mem_written_of_vertex? hi, mem_written_of_vertex? hj, mem_written_of_vertex? hk⟩
  · cases hijk

/-! ## What the buffers hold afterwards

Writes succeed as long as there is room, which is the case if the counts are those of the writes.
The induction is on the list of writes. -/

/-- The writes are behind what has been written before. -/
structure Appended (g : QSGGeometry K) (writes : List (MeshWrite K)) (g' : QSGGeometry K) :
    Prop where
  vertexCapacity : g'.vertexData.capacity = g.vertexData.capacity
  indexCapacity : g'.indexData.capacity = g.indexData.capacity
  vertexData : g'.vertexData.written = g.vertexData.written ++ vertices writes
  indexData : g'.indexData.written = g.indexData.written ++ indices writes

/-- A write succeeds as long as its buffer has room for it, and the other buffer stays as it is. -/
theorem write_some {g : QSGGeometry K} {w : MeshWrite K}
    (hv : ((g.vertexData.written.length + (vertices [w]).length : Nat) : Int)
      ≤ g.vertexData.capacity)
    (hi : ((g.indexData.written.length + (indices [w]).length : Nat) : Int)
      ≤ g.indexData.capacity) :
    ∃ g', g.write w = some g' ∧ Appended g [w] g' := by
  cases w with
  | vertex v =>
    have hone : (vertices [MeshWrite.vertex v]).length = 1 := rfl
    obtain ⟨b, hb, hcapacity, hwritten⟩ := g.vertexData.write_some v (by omega)
    exact ⟨_, congrArg (Option.map _) hb, hcapacity, rfl, hwritten, (List.append_nil _).symm⟩
  | index i =>
    have hone : (indices [(MeshWrite.index i : MeshWrite K)]).length = 1 := rfl
    obtain ⟨b, hb, hcapacity, hwritten⟩ := g.indexData.write_some i (by omega)
    exact ⟨_, congrArg (Option.map _) hb, rfl, hcapacity, (List.append_nil _).symm, hwritten⟩

/-- Writes succeed as long as there is room for all of them, and come in order behind what has
been written. By induction on the writes, from `write_some`. -/
theorem writes_some (writes : List (MeshWrite K)) {g : QSGGeometry K}
    (hv : ((g.vertexData.written.length + (vertices writes).length : Nat) : Int)
      ≤ g.vertexData.capacity)
    (hi : ((g.indexData.written.length + (indices writes).length : Nat) : Int)
      ≤ g.indexData.capacity) :
    ∃ g', writes.foldlM write g = some g' ∧ Appended g writes g' := by
  induction writes generalizing g with
  | nil => exact ⟨g, rfl, rfl, rfl, (List.append_nil _).symm, (List.append_nil _).symm⟩
  | cons w writes ih =>
    have hvs : vertices (w :: writes) = vertices [w] ++ vertices writes :=
      vertices_append [w] writes
    have his : indices (w :: writes) = indices [w] ++ indices writes := indices_append [w] writes
    rw [hvs, List.length_append] at hv
    rw [his, List.length_append] at hi
    obtain ⟨g₁, hg₁, h₁⟩ := write_some (g := g) (w := w) (by omega) (by omega)
    obtain ⟨g₂, hg₂, h₂⟩ := ih
      (by rw [h₁.vertexData, h₁.vertexCapacity, List.length_append]; omega)
      (by rw [h₁.indexData, h₁.indexCapacity, List.length_append]; omega)
    refine ⟨g₂, ?_, ?_⟩
    · rw [List.foldlM_cons, hg₁]
      exact hg₂
    · exact ⟨h₂.vertexCapacity.trans h₁.vertexCapacity, h₂.indexCapacity.trans h₁.indexCapacity,
        by rw [h₂.vertexData, h₁.vertexData, hvs, List.append_assoc],
        by rw [h₂.indexData, h₁.indexData, his, List.append_assoc]⟩

/-- The mesh has these counts, both buffers are full and every index is the number of a vertex. -/
structure Filled (g : QSGGeometry K) (vertexCount indexCount : Int) : Prop where
  vertexCapacity : g.vertexData.capacity = vertexCount
  indexCapacity : g.indexData.capacity = indexCount
  vertexFull : g.vertexData.Full
  indexFull : g.indexData.Full
  bounded : ∀ i ∈ g.indexData.written, 0 ≤ i.value ∧ i.value < vertexCount

/-- **A mesh is filled** if the counts are those of the writes. It is for the generators to show
that their loops write as many vertices and indices as they allocate. -/
theorem generate_filled {vertexCount indexCount : Int} {writes : List (MeshWrite K)}
    (hv : ((vertices writes).length : Int) = vertexCount)
    (hi : ((indices writes).length : Int) = indexCount)
    (hbounded : ∀ i ∈ indices writes, 0 ≤ i.value ∧ i.value < vertexCount) :
    ∃ g : QSGGeometry K, generate vertexCount indexCount writes = some g ∧
      g.Filled vertexCount indexCount ∧
      g.vertexData.written = vertices writes ∧
      g.indexData.written = indices writes := by
  obtain ⟨g, hg, h⟩ := writes_some writes (g := allocate vertexCount indexCount)
    (by show ((0 + _ : Nat) : Int) ≤ vertexCount; omega)
    (by show ((0 + _ : Nat) : Int) ≤ indexCount; omega)
  have hvertices : g.vertexData.written = vertices writes := h.vertexData
  have hindices : g.indexData.written = indices writes := h.indexData
  refine ⟨g, hg, ⟨h.vertexCapacity, h.indexCapacity, ?_, ?_, hindices ▸ hbounded⟩, hvertices,
    hindices⟩
  · show (g.vertexData.written.length : Int) = g.vertexData.capacity
    rw [hvertices, hv, h.vertexCapacity]
    rfl
  · show (g.indexData.written.length : Int) = g.indexData.capacity
    rw [hindices, hi, h.indexCapacity]
    rfl

/-- The mesh is generated from these vertices and indices. -/
theorem generate_map (vs : List (Vertex K)) (is : List Index) {vertexCount indexCount : Int}
    (hvs : (vs.length : Int) = vertexCount) (his : (is.length : Int) = indexCount)
    (hbounded : ∀ i ∈ is, 0 ≤ i.value ∧ i.value < vertexCount) :
    ∃ g : QSGGeometry K, generate vertexCount indexCount (vs.map .vertex ++ is.map .index) = some g ∧
      g.vertexData.written = vs ∧ g.indexData.written = is := by
  have hvertices : vertices (vs.map MeshWrite.vertex ++ is.map .index) = vs := by
    rw [vertices_append, vertices_map_vertex, vertices_map_index, List.append_nil]
  have hindices : indices (vs.map MeshWrite.vertex ++ is.map .index) = is := by
    rw [indices_append, indices_map_vertex, indices_map_index, List.nil_append]
  subst hvs his
  obtain ⟨g, hg, -, hvs', his'⟩ := generate_filled (by rw [hvertices]) (by rw [hindices])
    (by rw [hindices]; exact hbounded)
  exact ⟨g, hg, hvs'.trans hvertices, his'.trans hindices⟩

end QSGGeometry

end SamplerGeometry
