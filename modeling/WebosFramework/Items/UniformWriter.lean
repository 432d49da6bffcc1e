import WebosFramework.Lib.Layout

/-!
# Writing a uniform block

`UniformWriter` of `Eos/Items/src/material.h` fills the uniform buffer of a material, one member at
a time. It keeps an offset, which it moves up to the alignment of a vector before it writes the
components one by one, and refuses what does not fit into the buffer.

* A number is the four bytes it is stored in. A `QPointF` is given by the two `GLfloat`s its
  coordinates are converted to, a `QMatrix4x4` by the sixteen of its `constData`, column by column.
* `m_buf` is the memory from the buffer on, so that a write behind the end of it would be seen.
* `size_t` is a natural number; `offset_foldl_write_le` bounds the offset by the size of the buffer.

The shader reads a member where the std140 rules put it. **`foldl_write_std140`**: the writer puts
it there too, as long as it fits.

A component may fit neither where the writer is nor where the rules put it: an offset that has not
been moved on is then as good as one that has. `At` says so, and is kept by every write; `Writes`
says which components have been stored on the way. The matrix is the exception, as it is written
in one piece.
-/

namespace SamplerGeometry

open Layout

/-- The bytes of a `GLfloat` or a `GLint`. -/
abbrev Word := Vector UInt8 4

/-- A value that is written. -/
inductive Uniform where
  | vector4D (x y z w : Word)
  | float (f : Word)
  | int (i : Word)
  | point (x y : Word)
  | matrix4x4 (m : Vector Word 16)

/-- The memory from the start of the buffer on, where the writer is, and how many bytes the buffer
has. -/
structure UniformWriter where
  buf : Nat → UInt8
  offset : Nat := 0
  size : Nat

namespace UniformWriter

/-- `align`, for an alignment in bytes: the offset is moved up to the next multiple. -/
def align (w : UniformWriter) (n : Nat) : UniformWriter :=
  let offset := w.offset + (n - 1)
  { w with offset := offset - offset % n }

/-- `writeData`; too little space is only logged. -/
def writeData (w : UniformWriter) (data : List UInt8) : UniformWriter :=
  if w.offset + data.length > w.size then w
  else { w with buf := store w.buf w.offset data, offset := w.offset + data.length }

/-- A number, without any alignment: what has been written before is a multiple of four bytes. -/
def writeFloat (w : UniformWriter) (f : Word) : UniformWriter := w.writeData f.toList

/-- Numbers one by one, each of which may be refused for itself. -/
def writeFloats (w : UniformWriter) (value : List Word) : UniformWriter := value.foldl writeFloat w

/-- The overloads of `write`. -/
def write (w : UniformWriter) : Uniform → UniformWriter
  | .vector4D x y z v => (w.align (4 * 4)).writeFloats [x, y, z, v]
  | .float f => w.writeFloat f
  | .int i => w.writeData i.toList
  | .point x y => ((w.align (2 * 4)).writeFloat x).writeFloat y
  | .matrix4x4 m => (w.align (4 * 4)).writeData (m.toList.flatMap Vector.toList)

end UniformWriter

/-! ## The std140 rules

The rules for the members that are written, as an instance of the library of layouts. -/

namespace Uniform

/-- Only a matrix is written in one piece. -/
def isMatrix : Uniform → Bool
  | .matrix4x4 _ => true
  | _ => false

/-- The base alignment of `vec4`, `float`, `int`, `vec2` and `mat4`. -/
def baseAlignment : Uniform → Nat
  | .vector4D .. => 16
  | .float _ => 4
  | .int _ => 4
  | .point .. => 8
  | .matrix4x4 _ => 16

/-- The scalar components in the order they are stored in. A `mat4` is an array of four columns,
each stored as a `vec4`. -/
def components : Uniform → List Word
  | .vector4D x y z w => [x, y, z, w]
  | .float f => [f]
  | .int i => [i]
  | .point x y => [x, y]
  | .matrix4x4 m => m.toList

/-- The bytes of a member, without padding. -/
def byteSize (u : Uniform) : Nat := 4 * u.components.length

/-- No alignment is zero. -/
theorem baseAlignment_pos (u : Uniform) : 0 < u.baseAlignment := by
  cases u <;> simp [baseAlignment]

/-- Every alignment is one of numbers of four bytes, so that a number may follow any member
without padding. -/
theorem four_dvd_baseAlignment (u : Uniform) : 4 ∣ u.baseAlignment := by
  cases u <;> simp only [baseAlignment] <;> decide

end Uniform

/-- The bytes of a component and their offset. -/
def componentsAt : Nat → List Word → List (Nat × List UInt8)
  | _, [] => []
  | offset, f :: fs => (offset, f.toList) :: componentsAt (offset + 4) fs

/-- The components of a uniform block with these members. -/
def std140 (us : List Uniform) : List (Nat × List UInt8) :=
  (place Uniform.baseAlignment Uniform.byteSize 0 us).flatMap fun p =>
    componentsAt p.1 p.2.components

/-- The size of the block that the rules give it. -/
def std140Size (us : List Uniform) : Nat := extent Uniform.baseAlignment Uniform.byteSize 0 us

/-- A component lies within what its member takes. -/
theorem mem_componentsAt {pos : Nat} {fs : List Word} {c : Nat × List UInt8}
    (hc : c ∈ componentsAt pos fs) :
    pos ≤ c.1 ∧ c.1 + 4 ≤ pos + 4 * fs.length ∧ c.2.length = 4 := by
  induction fs generalizing pos with
  | nil => cases hc
  | cons f fs ih =>
    rw [List.length_cons]
    rcases List.mem_cons.mp hc with rfl | hc
    · exact ⟨Nat.le_refl _, by dsimp only; omega, by simp⟩
    · obtain ⟨hlow, hhigh, hlength⟩ := ih hc
      exact ⟨by omega, by omega, hlength⟩

/-- The components of a member come one right behind the other. -/
theorem pairwise_componentsAt (pos : Nat) (fs : List Word) :
    (componentsAt pos fs).Pairwise fun c d => c.1 + 4 ≤ d.1 := by
  induction fs generalizing pos with
  | nil => exact .nil
  | cons f fs ih => exact .cons (fun _ hd => (mem_componentsAt hd).1) (ih _)

/-- Every component has four bytes. -/
theorem length_of_mem_std140 {us : List Uniform} {c : Nat × List UInt8} (hc : c ∈ std140 us) :
    c.2.length = 4 := by
  obtain ⟨p, -, hc⟩ := List.mem_flatMap.mp hc
  exact (mem_componentsAt hc).2.2

/-- The components are within the size of the block. -/
theorem le_std140Size {us : List Uniform} {c : Nat × List UInt8} (hc : c ∈ std140 us) :
    c.1 + 4 ≤ std140Size us := by
  obtain ⟨p, hp, hc⟩ := List.mem_flatMap.mp hc
  exact (mem_componentsAt hc).2.1.trans (mem_place_le_extent Uniform.baseAlignment_pos hp)

/-- The components come in order and do not overlap. -/
theorem pairwise_std140 (us : List Uniform) :
    (std140 us).Pairwise fun c d => c.1 + 4 ≤ d.1 := by
  refine List.pairwise_flatMap.mpr ⟨fun p _ => pairwise_componentsAt p.1 _, ?_⟩
  apply (pairwise_place Uniform.baseAlignment_pos 0 us).imp
  intro p q hpq c hc d hd
  have hend := (mem_componentsAt hc).2.1
  have hbegin := (mem_componentsAt hd).1
  unfold Uniform.byteSize at hpq
  omega

namespace UniformWriter

/-! ## The writer and the rules

`Writes` relates the writer before and after some members to the place that the rules give them.
It composes, and the induction is on the list of members. -/

/-- Moving the offset up is what the rules do with a position. -/
theorem offset_align (w : UniformWriter) (n : Nat) : (w.align n).offset = alignUp n w.offset := by
  show w.offset + (n - 1) - (w.offset + (n - 1)) % n = (w.offset + (n - 1)) / n * n
  have hdiv := Nat.div_add_mod (w.offset + (n - 1)) n
  rw [Nat.mul_comm]
  omega

/-- A component at this offset fits into the buffer. -/
def fits (size : Nat) (item : Nat × List UInt8) : Bool := item.1 + 4 ≤ size

/-- The writer is at `pos`, or a component fits neither where it is nor at `pos`. -/
def At (w : UniformWriter) (pos : Nat) : Prop :=
  w.offset = pos ∨ w.size < w.offset + 4 ∧ w.size < pos + 4

/-- From `w` to `w'`, the components `items` have been written, if they fit, and `pos` is next. -/
structure Writes (w w' : UniformWriter) (items : List (Nat × List UInt8)) (pos : Nat) : Prop where
  next : w'.At pos
  size : w'.size = w.size
  buf : w'.buf = storeAll w.buf (items.filter (fits w.size))

/-- Writes one after the other. The second ones start where the first ones have got to. -/
theorem Writes.trans {w w' w'' : UniformWriter} {items items' : List (Nat × List UInt8)}
    {pos pos' : Nat} (h : Writes w w' items pos) (h' : Writes w' w'' items' pos') :
    Writes w w'' (items ++ items') pos' where
  next := h'.next
  size := h'.size.trans h.size
  buf := by rw [h'.buf, h.buf, h.size, List.filter_append, storeAll_append]

/-- Aligning writes nothing. A writer that has run out of space has done so after aligning as
well. -/
theorem writes_align {w : UniformWriter} {pos : Nat} (hpos : w.At pos) {n : Nat} (hn : 0 < n) :
    Writes w (w.align n) [] (alignUp n pos) where
  next := by
    rcases hpos with hpos | ⟨hoffset, hfull⟩
    · exact .inl (by rw [offset_align, hpos])
    · -- the buffer is full, and stays so further on
      have hoffset' := le_alignUp hn w.offset
      have hpos' := le_alignUp hn pos
      right
      rw [offset_align]
      show w.size < _ ∧ w.size < _
      omega
  size := rfl
  buf := rfl

/-- One number is stored where the rules put it, or it does not fit there. Both are `At` the
position: where nothing fits it does not matter which position that is. -/
theorem writes_writeFloat {w : UniformWriter} {pos : Nat} (hpos : w.At pos) (f : Word) :
    Writes w (w.writeFloat f) [(pos, f.toList)] (pos + 4) := by
  have hlength : f.toList.length = 4 := by simp
  unfold writeFloat writeData
  rw [hlength]
  by_cases hroom : w.offset + 4 > w.size
  · -- it does not fit, and `pos` is no better
    have hfull : w.size < pos + 4 := by
      rcases hpos with rfl | ⟨-, hfull⟩ <;> omega
    rw [if_pos hroom]
    refine ⟨.inr ⟨hroom, by omega⟩, rfl, ?_⟩
    have hfits : fits w.size (pos, f.toList) = false := decide_eq_false (by simpa using hfull)
    simp [hfits]
  · have hoffset : w.offset = pos := by
      rcases hpos with hpos | ⟨hfull, -⟩
      · exact hpos
      · omega
    rw [if_neg hroom, hoffset]
    refine ⟨.inl rfl, rfl, ?_⟩
    have hfits : fits w.size (pos, f.toList) = true := decide_eq_true (by simp; omega)
    simp [hfits]

/-- Several numbers, by induction: each is stored if it fits, and if one does not, those behind it
do not either. -/
theorem writes_writeFloats {w : UniformWriter} {pos : Nat} (hpos : w.At pos) (fs : List Word) :
    Writes w (w.writeFloats fs) (componentsAt pos fs) (pos + 4 * fs.length) := by
  induction fs generalizing w pos with
  | nil => exact ⟨hpos, rfl, rfl⟩
  | cons f fs ih =>
    have hfirst := writes_writeFloat hpos f
    have hrest := hfirst.trans (ih hfirst.next)
    have hnext : pos + 4 * (f :: fs).length = pos + 4 + 4 * fs.length := by
      rw [List.length_cons]
      omega
    rw [hnext]
    exact hrest

/-- **One member.** A member that is not a matrix is written where the std140 rules put it. -/
theorem writes_write {w : UniformWriter} {pos : Nat} (hpos : w.At pos) (hdvd : 4 ∣ pos)
    {u : Uniform} (hu : u.isMatrix = false) :
    Writes w (w.write u) (componentsAt (alignUp u.baseAlignment pos) u.components)
      (alignUp u.baseAlignment pos + u.byteSize) := by
  have halign := writes_align hpos u.baseAlignment_pos
  cases u with
  | vector4D x y z v => exact halign.trans (writes_writeFloats halign.next [x, y, z, v])
  | point x y => exact halign.trans (writes_writeFloats halign.next [x, y])
  | float f | int f =>
    -- the writer does not align here, and need not
    show Writes w _ (componentsAt (alignUp 4 pos) [f]) (alignUp 4 pos + 4)
    rw [alignUp_of_dvd (by decide) hdvd]
    exact writes_writeFloats hpos [f]
  | matrix4x4 m => cases hu

/-- A member ends at a multiple of four, where a number may follow. -/
theorem four_dvd_next {pos : Nat} (u : Uniform) :
    4 ∣ alignUp u.baseAlignment pos + u.byteSize :=
  Nat.dvd_add (Nat.dvd_trans u.four_dvd_baseAlignment (dvd_alignUp _ _)) (Nat.dvd_mul_right 4 _)

/-- Members that are not matrices, one after the other, by induction on the list. -/
theorem writes_foldl {w : UniformWriter} {pos : Nat} (hpos : w.At pos) (hdvd : 4 ∣ pos)
    {us : List Uniform} (hus : ∀ u ∈ us, u.isMatrix = false) :
    Writes w (us.foldl write w)
      ((place Uniform.baseAlignment Uniform.byteSize pos us).flatMap fun p =>
        componentsAt p.1 p.2.components)
      (extent Uniform.baseAlignment Uniform.byteSize pos us) := by
  induction us generalizing w pos with
  | nil => exact ⟨hpos, rfl, rfl⟩
  | cons u us ih =>
    have hfirst := writes_write hpos hdvd (hus u List.mem_cons_self)
    exact hfirst.trans
      (ih hfirst.next (four_dvd_next u) fun u' hu' => hus u' (List.mem_cons_of_mem u hu'))

/-- Storing the components of a member one by one is storing all of its bytes. -/
theorem storeAll_componentsAt (mem : Nat → UInt8) (pos : Nat) (fs : List Word) :
    storeAll mem (componentsAt pos fs) = store mem pos (fs.flatMap Vector.toList) := by
  induction fs generalizing mem pos with
  | nil => exact (store_nil mem pos).symm
  | cons f fs ih =>
    rw [List.flatMap_cons, store_append, componentsAt, storeAll_cons, ih]
    simp

/-- A matrix at the beginning of a buffer that has room for it, which is written in one piece. -/
theorem writes_matrix {w : UniformWriter} (hoffset : w.offset = 0) (hsize : 64 ≤ w.size)
    (m : Vector Word 16) :
    Writes w (w.write (.matrix4x4 m)) (componentsAt 0 m.toList) 64 := by
  have hlength : (m.toList.flatMap Vector.toList).length = 64 := by
    simp [List.length_flatMap, List.map_const']
  have hzero : (w.align (4 * 4)).offset = 0 := by
    rw [offset_align, hoffset]
    rfl
  have hall : (componentsAt 0 m.toList).filter (fits w.size) = componentsAt 0 m.toList := by
    apply List.filter_eq_self.mpr
    intro c hc
    have hend := (mem_componentsAt hc).2.1
    apply decide_eq_true
    simp at hend
    omega
  show Writes w ((w.align (4 * 4)).writeData (m.toList.flatMap Vector.toList)) _ 64
  unfold writeData
  rw [hlength, hzero, if_neg (by show ¬ 0 + 64 > w.size; omega)]
  exact ⟨.inl rfl, rfl, by rw [hall, storeAll_componentsAt]; rfl⟩

/-- **A block that fits can be read back.** It begins with the matrix. Every component that has
been written is there afterwards, since those behind it do not overlap with it. -/
theorem read_back (mem : Nat → UInt8) {size : Nat} {m : Vector Word 16} {us : List Uniform}
    (hus : ∀ u ∈ us, u.isMatrix = false) (hsize : std140Size (.matrix4x4 m :: us) ≤ size)
    {c : Nat × List UInt8} (hc : c ∈ std140 (.matrix4x4 m :: us)) {i : Nat} (hi : i < c.2.length) :
    ((Uniform.matrix4x4 m :: us).foldl write { buf := mem, size }).buf (c.1 + i) = c.2[i] := by
  -- the matrix starts the block and fills its first 64 bytes
  have hstart : alignUp (Uniform.matrix4x4 m).baseAlignment 0 = 0 := by
    show alignUp 16 0 = 0
    decide
  have hend : (Uniform.matrix4x4 m).byteSize = 64 := by
    simp [Uniform.byteSize, Uniform.components]
  have hstd : std140 (.matrix4x4 m :: us) = componentsAt 0 m.toList ++
      (place Uniform.baseAlignment Uniform.byteSize 64 us).flatMap fun p =>
        componentsAt p.1 p.2.components := by
    rw [std140, place, List.flatMap_cons, hstart, hend]
    rfl
  have hroom : 64 ≤ size := by
    rw [std140Size, extent, hstart, hend] at hsize
    exact (le_extent Uniform.baseAlignment_pos _ us).trans hsize
  have hmatrix := writes_matrix (w := { buf := mem, size }) rfl hroom m
  have hwrites := hmatrix.trans (writes_foldl hmatrix.next (by decide) hus)
  rw [← hstd] at hwrites
  -- the block fits, so nothing is filtered out
  have hall : (std140 (.matrix4x4 m :: us)).filter (fits size) = std140 (.matrix4x4 m :: us) :=
    List.filter_eq_self.mpr fun c hc => decide_eq_true ((le_std140Size hc).trans hsize)
  have hbuf := hwrites.buf
  dsimp only at hbuf
  rw [hall] at hbuf
  rw [List.foldl_cons, hbuf]
  apply storeAll_of_mem _ hc hi
  apply (pairwise_std140 (.matrix4x4 m :: us)).imp_of_mem
  intro c d hc _ hcd
  rwa [length_of_mem_std140 hc]

/-- The offset stays within the buffer, up to the padding of the last vector. Aligning rounds up to
a multiple of 16 at most, and a number that does not fit leaves the offset alone. -/
theorem offset_write_le {w : UniformWriter} (hw : w.offset ≤ alignUp 16 w.size) (u : Uniform) :
    (w.write u).size = w.size ∧ (w.write u).offset ≤ alignUp 16 w.size := by
  -- a multiple of 16 is aligned for every member, so only the writes matter
  have hdata : ∀ (w : UniformWriter) (data : List UInt8), w.offset ≤ alignUp 16 w.size →
      (w.writeData data).size = w.size ∧ (w.writeData data).offset ≤ alignUp 16 w.size := by
    intro w data hw
    have hsize := le_alignUp (n := 16) (by decide) w.size
    unfold writeData
    split
    · exact ⟨rfl, hw⟩
    · exact ⟨rfl, by dsimp only; omega⟩
  have hfloats : ∀ (fs : List Word) (w : UniformWriter), w.offset ≤ alignUp 16 w.size →
      (w.writeFloats fs).size = w.size ∧ (w.writeFloats fs).offset ≤ alignUp 16 w.size := by
    intro fs
    induction fs with
    | nil => exact fun w hw => ⟨rfl, hw⟩
    | cons f fs ih =>
      intro w hw
      obtain ⟨hsize, hoffset⟩ := hdata w f.toList hw
      rw [← hsize] at hoffset ⊢
      exact ih _ hoffset
  have halign : ∀ n, 0 < n → n ∣ 16 → (w.align n).offset ≤ alignUp 16 w.size := by
    intro n hn hdvd
    rw [offset_align]
    exact alignUp_le hn hw (Nat.dvd_trans hdvd (dvd_alignUp 16 w.size))
  cases u with
  | vector4D x y z v => exact hfloats [x, y, z, v] _ (halign 16 (by decide) (by decide))
  | point x y => exact hfloats [x, y] _ (halign 8 (by decide) (by decide))
  | float f | int f => exact hdata w f.toList hw
  | matrix4x4 m => exact hdata _ _ (halign 16 (by decide) (by decide))

/-- The same for any list of members: the offset never runs away from the buffer, so that it fits
into a `size_t`. -/
theorem offset_foldl_write_le {w : UniformWriter} (hw : w.offset ≤ alignUp 16 w.size)
    (us : List Uniform) : (us.foldl write w).offset ≤ alignUp 16 w.size := by
  induction us generalizing w with
  | nil => exact hw
  | cons u us ih =>
    obtain ⟨hsize, hoffset⟩ := offset_write_le hw u
    rw [← hsize] at hoffset ⊢
    exact ih hoffset

/-! ## The whole block

The result about any list of members behind a matrix, for a buffer of any size. -/

/-- `mem'` is `mem` after the members `us` have been written to a buffer of `size` bytes: the first
`n` components are where the std140 rules put them, the others do not fit. -/
structure Reproduces (us : List Uniform) (size : Nat) (mem mem' : Nat → UInt8) (n : Nat) :
    Prop where
  /-- Nothing is written behind the buffer. -/
  outside : ∀ a, size ≤ a → mem' a = mem a
  written : ∀ c ∈ (std140 us).take n, c.1 + 4 ≤ size ∧
    ∀ i (hi : i < c.2.length), mem' (c.1 + i) = c.2[i]
  /-- Nothing else is written, so nothing after the first component that does not fit. -/
  untouched : ∀ a, (∀ c ∈ (std140 us).take n, a < c.1 ∨ c.1 + 4 ≤ a) → mem' a = mem a
  /-- None of the others would have fitted. -/
  dropped : ∀ c ∈ (std140 us).drop n, size < c.1 + 4
  /-- No component is written over by another one. -/
  disjoint : (std140 us).Pairwise fun c d => c.1 + 4 ≤ d.1
  /-- In a buffer for the whole block all of it is written. -/
  complete : std140Size us ≤ size → (std140 us).take n = std140 us

/-- **The writer reproduces the std140 layout.** It begins with the matrix and goes on with any
other members. Those that fit are where the rules put them; from the first component that does not
fit on nothing is written, as the components are in order. -/
theorem foldl_write_std140 (mem : Nat → UInt8) (size : Nat) (hsize : 64 ≤ size)
    (m : Vector Word 16) (us : List Uniform) (hus : ∀ u ∈ us, u.isMatrix = false) :
    ∃ n, Reproduces (.matrix4x4 m :: us) size mem
      ((Uniform.matrix4x4 m :: us).foldl write { buf := mem, size }).buf n := by
  -- the matrix is written as a whole, the rest member by member
  have hwrites : Writes { buf := mem, size }
      ((Uniform.matrix4x4 m :: us).foldl write { buf := mem, size })
      (std140 (.matrix4x4 m :: us)) (std140Size (.matrix4x4 m :: us)) := by
    have hmatrix := writes_matrix (w := { buf := mem, size }) rfl hsize m
    have hrest := hmatrix.trans (writes_foldl hmatrix.next (by decide) hus)
    have hstart : alignUp (Uniform.matrix4x4 m).baseAlignment 0 = 0 := by
      show alignUp 16 0 = 0
      decide
    have hend : (Uniform.matrix4x4 m).byteSize = 64 := by
      simp [Uniform.byteSize, Uniform.components]
    unfold std140 std140Size
    rw [place, extent, hstart, hend]
    exact hrest
  generalize Uniform.matrix4x4 m :: us = vs at hwrites ⊢
  have hpairwise := pairwise_std140 vs
  -- the components are in order, so those that fit come first
  obtain ⟨n, htake, hdrop⟩ := exists_filter_eq_take (p := fits size) (l := std140 vs)
    (hpairwise.imp fun {c d} hcd hd => by
      have hd' := of_decide_eq_true hd
      exact decide_eq_true (by omega))
  have hbuf := hwrites.buf
  dsimp only at hbuf
  rw [htake] at hbuf
  have hfits : ∀ c ∈ (std140 vs).take n, c.1 + 4 ≤ size := by
    intro c hc
    rw [← htake] at hc
    exact of_decide_eq_true (List.mem_filter.mp hc).2
  have hlength : ∀ c ∈ (std140 vs).take n, c.2.length = 4 :=
    fun c hc => length_of_mem_std140 (List.mem_of_mem_take hc)
  have huntouched : ∀ a, (∀ c ∈ (std140 vs).take n, a < c.1 ∨ c.1 + 4 ≤ a) →
      (vs.foldl write { buf := mem, size }).buf a = mem a := by
    intro a ha
    rw [hbuf]
    apply storeAll_of_forall
    intro c hc
    rw [hlength c hc]
    exact ha c hc
  have hdropped : ∀ c ∈ (std140 vs).drop n, size < c.1 + 4 := by
    intro c hc
    have hno := of_decide_eq_false (hdrop c hc)
    omega
  refine ⟨n, fun a ha => huntouched a fun c hc => ?_, fun c hc => ⟨hfits c hc, fun i hi => ?_⟩,
    huntouched, hdropped, hpairwise, fun hcomplete => ?_⟩
  · have hfit := hfits c hc
    omega
  · rw [hbuf]
    apply storeAll_of_mem _ hc hi
    apply (hpairwise.sublist (List.take_sublist n _)).imp_of_mem
    intro c d hc _ hcd
    rwa [hlength c hc]
  · rw [← htake]
    apply List.filter_eq_self.mpr
    intro c hc
    exact decide_eq_true ((le_std140Size hc).trans hcomplete)

/-- The members of the block `buf` of `bezier.vert`, all with the same number: what
`SolidShader::updateUniformData` and `BeziergonShaderAspect::updateState` write. -/
def bezierBlock (f : Word) : List Uniform :=
  [.matrix4x4 (.replicate 16 f), .float f, .vector4D f f f f, .float f, .float f,
    .vector4D f f f f, .vector4D f f f f, .int f] ++ List.replicate 12 (.point f f)

/-- The opacity is followed by padding, the scales and the rotation are not. -/
example : (place Uniform.baseAlignment Uniform.byteSize 0 (bezierBlock #v[0, 0, 0, 0])).map Prod.fst =
    [0, 64, 80, 96, 100, 112, 128, 144, 152, 160, 168, 176, 184, 192, 200, 208, 216, 224, 232,
      240] := by
  decide

theorem foldl_write_std140_bezierBlock :
    ∃ n, Reproduces (bezierBlock #v[0, 0, 128, 63]) 248 (fun _ => 0)
      ((bezierBlock #v[0, 0, 128, 63]).foldl write { buf := fun _ => 0, size := 248 }).buf n :=
  foldl_write_std140 _ 248 (by decide) (.replicate 16 #v[0, 0, 128, 63])
    (bezierBlock #v[0, 0, 128, 63]).tail (by decide)

end UniformWriter

end SamplerGeometry
