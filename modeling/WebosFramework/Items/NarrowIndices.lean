import WebosFramework.Items.BeziergonMesh

/-!
# Indices of 16 bits

The indices of the body of a `Beziergon` are stored as `quint16`. Two of the three corners of a
triangle at its upper edge are assigned, which takes the number modulo 65536, and those at its lower
edge go through `int2ushort`, which replaces a greater number by 65535. The resolution is not
limited.

**`keepsNumbers_iff`**: all indices keep the row-major numbers of the vertices exactly if the body
has at most 65536 vertices.

An index is narrowed to another number just in case it is above 65535. So it is enough to find the
greatest index of the body, which is that of its last vertex (`last_mem_bodyWrites`).
-/

namespace SamplerGeometry.Beziergon

open Loops Qt QSGGeometry SecureCoding

/-- The row-major numbers of the vertices that the triangles are meant to use. -/
def meantNumbers (resolution : QPoint) : List Int :=
  forLoop (resolution.y + 1) fun y => forLoop (resolution.x + 1) fun x =>
    (cellPoints x y).map fun p => vertexNumber (resolution.x + 2) p.1 p.2

/-- The stored indices are, as numbers, those of the vertices that are meant. -/
def KeepsNumbers (K : Type) [Field K] (resolution : QPoint) (antialiasing : Bool) : Prop :=
  ∃ g : QSGGeometry K, generateBodyGeometry resolution antialiasing = some g ∧
    g.indexData.written.map (fun i => (i.stored.toNat : Int)) = meantNumbers resolution

/-! ## Narrowing one index

The two ways in which the source makes a `quint16` of an `int`, and when they keep the number. -/

/-- What fits is stored as it is, by both conversions. -/
theorem stored_eq_value {i : Index} (h0 : 0 ≤ i.value) (hmax : i.value ≤ USHRT_MAX) :
    (i.stored.toNat : Int) = i.value := by
  cases i with
  | int2ushort value => exact toNat_int2ushort h0 hmax
  | assign value =>
    show ((UInt16.ofInt value).toNat : Int) = value
    simp only [Index.value, USHRT_MAX] at h0 hmax
    rw [toNat_ofInt]
    omega

/-- Whatever is stored is a number of 16 bits. -/
theorem stored_le (i : Index) : (i.stored.toNat : Int) ≤ USHRT_MAX := by
  have := i.stored.toNat_lt
  show (_ : Int) ≤ 65535
  omega

example : (Index.assign 65536).stored = 0 ∧ (Index.int2ushort 65536).stored = 65535 := by decide

/-! ## All indices of the body

The greatest index is that of the last vertex. So all of them fit as soon as this one does. -/

variable {K : Type} [Field K] {r : QPoint} (hx : 0 ≤ r.x) (hy : 0 ≤ r.y)

include hx hy in
/-- Before they are narrowed the indices are those that are meant, in the order of the loops. -/
theorem value_bodyWrites (antialiasing : Bool) :
    (indices (bodyWrites (K := K) (r.x + 2) (r.y + 2) antialiasing)).map Index.value
      = meantNumbers r := by
  rw [indices_bodyWrites hx hy]
  simp only [map_forLoop, value_cellIndices]
  rfl

include hx hy in
/-- Nothing is lost exactly if no index is narrowed to another number. -/
theorem keepsNumbers_iff_stored (hfits : BodyFits r) (antialiasing : Bool) :
    KeepsNumbers K r antialiasing
      ↔ ∀ i ∈ indices (bodyWrites (K := K) (r.x + 2) (r.y + 2) antialiasing),
          (i.stored.toNat : Int) = i.value := by
  obtain ⟨g, hg, -, -, hindices⟩ := generateBodyGeometry_some (K := K) hx hy hfits antialiasing
  rw [← List.map_inj_left, value_bodyWrites hx hy, ← hindices]
  constructor
  · intro ⟨g', hg', h⟩
    obtain rfl : g = g' := Option.some.inj (hg.symm.trans hg')
    exact h
  · exact fun h => ⟨g, hg, h⟩

include hx hy in
/-- The last index is that of the last vertex. -/
theorem last_mem_bodyWrites (antialiasing : Bool) :
    .int2ushort ((r.x + 2) * (r.y + 2) - 1)
      ∈ indices (bodyWrites (K := K) (r.x + 2) (r.y + 2) antialiasing) := by
  rw [indices_bodyWrites hx hy]
  refine mem_forLoop.2 ⟨r.y, by omega, mem_forLoop.2 ⟨r.x, by omega, ?_⟩⟩
  have hlast : (r.x + 2) * (r.y + 2) - 1 = (r.y + 1) * (r.x + 2) + r.x + 1 := by
    rw [show r.y + 2 = r.y + 1 + 1 by omega, Int.mul_comm, Int.add_mul (r.y + 1) 1]
    omega
  rw [hlast]
  exact List.mem_cons_of_mem _ (List.mem_cons_of_mem _ (List.mem_cons_of_mem _
    (List.mem_cons_of_mem _ List.mem_cons_self)))

include hx hy in
/-- If all indices keep their numbers then so does that of the last vertex, which is one less than
how many there are. -/
theorem vertexCount_le_of_keepsNumbers (hfits : BodyFits r) {antialiasing : Bool}
    (h : KeepsNumbers K r antialiasing) : (r.x + 2) * (r.y + 2) ≤ 65536 := by
  have hlast := (keepsNumbers_iff_stored hx hy hfits antialiasing).1 h _
    (last_mem_bodyWrites hx hy antialiasing)
  have hle := stored_le (.int2ushort ((r.x + 2) * (r.y + 2) - 1))
  rw [hlast] at hle
  simp only [Index.value, USHRT_MAX] at hle
  omega

include hx hy in
/-- **Indices keep their numbers** exactly in a body of at most 65536 vertices. In one direction
the index of the last vertex decides, in the other every index is at most that one.

An index is stored in 16 bits, so it keeps its number just in case the number is below 65536. -/
theorem keepsNumbers_iff (hfits : BodyFits r) (antialiasing : Bool) :
    KeepsNumbers K r antialiasing ↔ (r.x + 2) * (r.y + 2) ≤ 65536 := by
  refine ⟨vertexCount_le_of_keepsNumbers hx hy hfits, fun hcount => ?_⟩
  obtain ⟨g, -, hfilled, -, hindices⟩ :=
    generateBodyGeometry_some (K := K) hx hy hfits antialiasing
  refine (keepsNumbers_iff_stored hx hy hfits antialiasing).2 fun i hi => ?_
  obtain ⟨h0, hmax⟩ := hfilled.bounded i (hindices ▸ hi)
  refine stored_eq_value h0 ?_
  show i.value ≤ 65535
  omega

/-- At a resolution of 254 in both directions the body has 65536 vertices. -/
theorem keepsNumbers_254 : KeepsNumbers ℚ ⟨254, 254⟩ true :=
  (keepsNumbers_iff (by decide) (by decide) (show _ ∧ _ by decide) true).2 (by decide)

/-- At a resolution of 255 in both directions there are 66049. -/
theorem not_keepsNumbers_255 :
    BodyFits ⟨255, 255⟩ ∧ ¬ KeepsNumbers ℚ ⟨255, 255⟩ true := by
  have hfits : BodyFits ⟨255, 255⟩ := show _ ∧ _ by decide
  refine ⟨hfits, fun h => ?_⟩
  have hcount := vertexCount_le_of_keepsNumbers (by decide) (by decide) hfits h
  exact absurd hcount (by decide)

end SamplerGeometry.Beziergon
