import WebosFramework.Items.Beziergon
import WebosFramework.Items.UniformWriter
import WebosFramework.Lib.Glsl

/-!
# The uniforms of a material

For Qt 6, the shaders of `Eos/Items/src/material.cpp` and `beziergon.cpp` fill the uniform block of
a material member by member. The files in `shaders/qt6` declare the block once more, one by one:
some of them with the points of a `Beziergon`, others without, whatever shader they are part of.

* A `Shader` is one of the six classes. It consists of a vertex and of a fragment stage, which are
  read in the order of their declarations by the std140 rules.
* The texture is given by `normalizedTextureSubRect`, if there is a provider that has one. How a
  number is stored is a parameter.
* `SimpleSampledBeziergonShader` casts its material to the wrong class, in which the points have the
  same place.

**`shaders_read_material`**: each stage reads, under each name that its `main` uses, what the
material holds for that name.

The blocks of all shader files begin with the same members (`exists_base`), and what comes after
them is read by `bezier.vert` only. So the offsets that matter are those of a common beginning,
and that what has been written there is read back is `UniformWriter.read_back`.
-/

namespace SamplerGeometry

open Glsl Layout Qt

/-! ## The blocks that are declared

The members of the uniform block of each file, in the order of their declarations. The std140
rules give their offsets. -/

/-- The members of a block, by their names in the shaders. -/
inductive UniformName where
  | qtMatrix | qtOpacity | color | xScale | yScale | dest | sourceSubRect | rotation
  | point (n : BezierPoint)
  deriving DecidableEq

/-- The types of members that the blocks use. -/
inductive UniformType where
  | mat4
  | vec4
  | vec2
  | float
  | int
  deriving DecidableEq

namespace UniformType

/-- The base alignment in bytes. -/
def baseAlignment : UniformType → Nat
  | .mat4 | .vec4 => 16
  | .vec2 => 8
  | .float | .int => 4

/-- The numbers that it consists of. -/
def size : UniformType → Nat
  | .mat4 => 16
  | .vec4 => 4
  | .vec2 => 2
  | .float | .int => 1

/-- The bytes that a value of the type takes, without padding. -/
def byteSize (t : UniformType) : Nat := 4 * t.size

end UniformType

/-- A declaration within a block. -/
abbrev Member := UniformName × UniformType

/-- What the block of every file begins with, in the order of its declarations. -/
def baseBlock : List Member :=
  [(.qtMatrix, .mat4), (.qtOpacity, .float), (.color, .vec4), (.xScale, .float), (.yScale, .float),
    (.dest, .vec4), (.sourceSubRect, .vec4), (.rotation, .int)]

/-- The points of a `Beziergon`, in the order in which both the shaders and the writer have them. -/
def points : List BezierPoint :=
  [.topLeft, .topRight, .bottomLeft, .bottomRight, .controlTopLeft, .controlTopRight,
    .controlBottomLeft, .controlBottomRight, .controlLeftTop, .controlLeftBottom,
    .controlRightTop, .controlRightBottom]

/-- The members for the points. -/
def pointsBlock : List Member := points.map fun n => (.point n, .vec2)

/-- The files in `shaders/qt6`. -/
inductive ShaderFile where
  | parallelogramVert
  | bezierVert
  | solidFrag
  | samplerFrag
  | samplerDebugFrag
  | samplerDestFrag
  | samplerDestDebugFrag
  deriving DecidableEq

namespace ShaderFile

/-- The block `buf`. -/
def block : ShaderFile → List Member
  | .parallelogramVert | .samplerDebugFrag | .samplerDestFrag | .samplerDestDebugFrag => baseBlock
  | .bezierVert | .solidFrag | .samplerFrag => baseBlock ++ pointsBlock

/-- The members that `main` reads. -/
def uses : ShaderFile → List UniformName
  | .parallelogramVert => [.qtMatrix, .dest, .sourceSubRect]
  | .bezierVert => [.qtMatrix, .dest, .sourceSubRect] ++ points.map .point
  | .solidFrag => [.qtOpacity, .color]
  | .samplerFrag | .samplerDebugFrag => [.qtOpacity, .color, .xScale, .yScale, .rotation]
  | .samplerDestFrag | .samplerDestDebugFrag =>
    [.qtOpacity, .color, .xScale, .yScale, .rotation, .sourceSubRect]

/-- The members with the offsets that the std140 rules give them. -/
def layout (file : ShaderFile) : List (Nat × Member) :=
  place (fun m : Member => m.2.baseAlignment) (fun m => m.2.byteSize) 0 file.block

/-- The size of a block, up to the end of its last member. A buffer for the block is at least as
big. -/
def blockSize (file : ShaderFile) : Nat :=
  extent (fun m : Member => m.2.baseAlignment) (fun m => m.2.byteSize) 0 file.block

end ShaderFile

/-- The number that is stored at `offset`. -/
def readWord (buf : Nat → UInt8) (offset : Nat) : Word := .ofFn fun i => buf (offset + i)

/-- Several numbers, one right behind the other. -/
def readWords (buf : Nat → UInt8) : Nat → Nat → List Word
  | _, 0 => []
  | offset, n + 1 => readWord buf offset :: readWords buf (offset + 4) n

/-- What a stage finds under a name of its block. -/
def ShaderFile.read (file : ShaderFile) (buf : Nat → UInt8) (name : UniformName) :
    Option (List Word) :=
  (file.layout.find? fun p => p.2.1 = name).map fun p => readWords buf p.1 p.2.2.size

/-! ## The shaders

Six classes, with the files that their constructors name for the two stages. -/

/-- What a shader does with the texture: nothing, sampling within `dest`, or sampling throughout. -/
inductive ShaderKind where
  | solid
  | sampled
  | simpleSampled
  deriving DecidableEq

/-- A class of shaders. With `beziergon`, it derives from `BeziergonShaderAspect` as well. -/
structure Shader where
  kind : ShaderKind
  beziergon : Bool

namespace Shader

variable (s : Shader)

/-- The file of the vertex stage, as the constructors of the classes name it. -/
def vertexStage : ShaderFile := if s.beziergon then .bezierVert else .parallelogramVert

/-- `debug`: the variable `QWF_DEBUG_SHADERS` is set. -/
def fragmentStage (debug : Bool) : ShaderFile :=
  match s.kind with
  | .solid => .solidFrag
  | .sampled => if debug then .samplerDestDebugFrag else .samplerDestFrag
  | .simpleSampled => if debug then .samplerDebugFrag else .samplerFrag

/-- Both stages of the shader. They share one buffer. -/
def stages (debug : Bool) : List ShaderFile := [s.vertexStage, s.fragmentStage debug]

end Shader

/-! ## Materials

What the classes write for a material, in the order of the writes. The derived classes call the
base class first. -/

/-- `SolidMaterial::Uniforms` -/
structure BaseUniforms (K : Type) where
  dest : Vec4 K
  sourceSubRect : Vec4 K
  color : Vec4 K
  rotation : Int
  xScale : K
  yScale : K

/-- A material, with all members that one may have. -/
structure Material (K : Type) where
  baseUniforms : BaseUniforms K
  /-- `redF`, `greenF`, `blueF` and `alphaF` of `m_color` -/
  color : Vec4 K
  dest : QRectF K
  rotation : Int
  xScale : K
  yScale : K
  /-- The members of `BeziergonState`. -/
  point : BezierPoint → QPointF K

/-- `Beziergon::updateBeziergonState` -/
def Material.updateBeziergonState {K : Type} (mat : Material K) (b : Beziergon K) : Material K :=
  { mat with point := b.point }

/-- The matrix and the opacity, which the renderer passes to `updateUniformData`. -/
structure RenderState (K : Type) where
  combinedMatrix : Mat4 K
  opacity : K

/-- How numbers are stored. -/
structure Numbers (K : Type) where
  float : K → Word
  int : Int → Word

namespace Numbers

variable {K : Type} (n : Numbers K)

/-- A vector of four, stored component by component. -/
def vector4D (v : Vec4 K) : Uniform :=
  .vector4D (n.float v.x) (n.float v.y) (n.float v.z) (n.float v.w)

/-- A point, stored as two numbers. -/
def point (p : QPointF K) : Uniform := .point (n.float p.x) (n.float p.y)

/-- `constData` goes column by column. -/
def matrix4x4 (m : Mat4 K) : Uniform :=
  .matrix4x4 (.ofFn fun i => n.float (m ⟨i % 4, by omega⟩ ⟨i / 4, by omega⟩))

end Numbers

section Write

variable {K : Type} [Mul K]

/-- The color times its alpha. -/
def premultiplied (color : Vec4 K) : Vec4 K :=
  ![color.x * color.a, color.y * color.a, color.z * color.a, color.a]

/-- `QVector4D(r.x(), r.y(), r.width(), r.height())` -/
def ofRect (r : QRectF K) : Vec4 K := ![r.x, r.y, r.width, r.height]

/-- `SolidShader::updateUniformBlock`; what it writes comes last. -/
def solidUniformBlock (n : Numbers K) (mat : Material K) : Material K × List Uniform :=
  let base := { mat.baseUniforms with color := premultiplied mat.color }
  ({ mat with baseUniforms := base },
    [n.vector4D base.color, .float (n.float base.xScale), .float (n.float base.yScale),
      n.vector4D base.dest, n.vector4D base.sourceSubRect, .int (n.int base.rotation)])

/-- `SampledShader::updateUniformBlock` -/
def sampledUniformBlock (n : Numbers K) (mat : Material K) : Material K × List Uniform :=
  solidUniformBlock n { mat with
    baseUniforms := { mat.baseUniforms with
      dest := ofRect mat.dest
      rotation := mat.rotation
      xScale := mat.xScale
      yScale := mat.yScale } }

/-- `BeziergonShaderAspect::updateState` -/
def updateState (n : Numbers K) (mat : Material K) : List Uniform :=
  points.map fun p => n.point (mat.point p)

namespace Shader

variable (s : Shader)

/-- The shader is one of the two that have a texture. -/
def samples : Bool := s.kind ≠ .solid

/-- `updateUniformBlock` of the class, which ends with `updateState` if the class is a
`BeziergonShaderAspect` as well. -/
def updateUniformBlock (n : Numbers K) (mat : Material K) : Material K × List Uniform :=
  let block := if s.samples then sampledUniformBlock n mat else solidUniformBlock n mat
  (block.1, block.2 ++ if s.beziergon then updateState n mat else [])

/-- What `updateUniformData` does first. A solid material has no texture provider. -/
def updateSourceSubRect (texture : Option (QRectF K)) (mat : Material K) : Material K :=
  match if s.samples then texture else none with
  | some r => { mat with baseUniforms := { mat.baseUniforms with sourceSubRect := ofRect r } }
  | none => mat

/-- `updateUniformData`: the matrix and the opacity, and then the rest of the block. Everything is
written in every frame, whether it has changed or not. -/
def updateUniformData (n : Numbers K) (state : RenderState K) (texture : Option (QRectF K))
    (mat : Material K) (w : UniformWriter) : Material K × UniformWriter :=
  let w := w.write (n.matrix4x4 state.combinedMatrix)
  let w := w.write (.float (n.float state.opacity))
  let block := s.updateUniformBlock n (s.updateSourceSubRect texture mat)
  (block.1, block.2.foldl UniformWriter.write w)

/-- The members that are written, in order. -/
def members : List Member := baseBlock ++ if s.beziergon then pointsBlock else []

/-- What a member is to be: as the item has set it on the material, with the texture that is there
now, or else the last one. What only a sampled material is given, a solid one leaves as it is. -/
def uniform (n : Numbers K) (state : RenderState K) (texture : Option (QRectF K))
    (mat : Material K) : UniformName → Uniform
  | .qtMatrix => n.matrix4x4 state.combinedMatrix
  | .qtOpacity => .float (n.float state.opacity)
  | .color => n.vector4D (premultiplied mat.color)
  -- what a solid material has here is what it was made with, and no solid shader reads it
  | .xScale => .float (n.float (if s.samples then mat.xScale else mat.baseUniforms.xScale))
  | .yScale => .float (n.float (if s.samples then mat.yScale else mat.baseUniforms.yScale))
  | .dest => n.vector4D (if s.samples then ofRect mat.dest else mat.baseUniforms.dest)
  | .sourceSubRect => n.vector4D
      (if s.samples then (texture.map ofRect).getD mat.baseUniforms.sourceSubRect
        else mat.baseUniforms.sourceSubRect)
  | .rotation => .int (n.int (if s.samples then mat.rotation else mat.baseUniforms.rotation))
  | .point p => n.point (mat.point p)

end Shader

end Write

/-! ## The members that are written

The writes, as a list of members. What a stage declares begins like this list, as far as the stage
uses it. -/

section Members

variable {K : Type} [Mul K] (n : Numbers K) (state : RenderState K) (texture : Option (QRectF K))
  (mat : Material K) (s : Shader)

/-- Every member has the type of what is written for it. So the writer and the reader go forward
by the same number of bytes. -/
theorem uniform_type {m : Member} (hm : m ∈ s.members) :
    (s.uniform n state texture mat m.1).baseAlignment = m.2.baseAlignment ∧
      (s.uniform n state texture mat m.1).byteSize = m.2.byteSize := by
  have hcases : m ∈ baseBlock ∨ m ∈ pointsBlock := by
    rcases List.mem_append.mp hm with hm | hm
    · exact .inl hm
    · split at hm
      · exact .inr hm
      · cases hm
  rcases hcases with hm | hm
  · simp only [baseBlock, List.mem_cons, List.not_mem_nil, or_false] at hm
    rcases hm with rfl | rfl | rfl | rfl | rfl | rfl | rfl | rfl <;> exact ⟨rfl, rfl⟩
  · obtain ⟨p, -, rfl⟩ := List.mem_map.mp hm
    exact ⟨rfl, rfl⟩

/-- The writes, one for each member, in the order of the members. What the classes write in three
functions is one list here. -/
theorem updateUniformData_eq (w : UniformWriter) :
    (s.updateUniformData n state texture mat w).2 =
      (s.members.map fun m => s.uniform n state texture mat m.1).foldl UniformWriter.write w := by
  obtain ⟨kind, beziergon⟩ := s
  cases kind with
  | solid => cases beziergon <;> rfl
  | sampled | simpleSampled => cases texture <;> cases beziergon <;> rfl

/-- The vertex stage declares what is written, to the last member. For the fragment stage this is
not so. -/
theorem block_vertexStage : s.vertexStage.block = s.members := by
  obtain ⟨kind, beziergon⟩ := s
  cases beziergon <;> rfl

/-- The blocks begin alike, and only `bezier.vert` uses more than what they have in common. -/
theorem exists_base (file : ShaderFile) : ∃ bs, file.block = baseBlock ++ bs := by
  cases file with
  | parallelogramVert | samplerDebugFrag | samplerDestFrag | samplerDestDebugFrag => exact ⟨[], rfl⟩
  | bezierVert | solidFrag | samplerFrag => exact ⟨pointsBlock, rfl⟩

/-- Whatever `main` uses is declared, in the beginning that all blocks have in common except for
`bezier.vert`. -/
theorem exists_of_uses {file : ShaderFile} {name : UniformName} (hname : name ∈ file.uses) :
    ∃ m ∈ if file = .bezierVert then file.block else baseBlock, m.1 = name := by
  apply List.mem_map.mp
  revert name
  cases file <;> decide

/-- A stage declares the members that it uses where they are written. For `bezier.vert` the whole
block is the one that is written, and for the others it is enough to look at the common beginning.
-/
theorem exists_begins {debug : Bool} {file : ShaderFile} (hfile : file ∈ s.stages debug)
    {name : UniformName} (hname : name ∈ file.uses) :
    ∃ as bs bs', file.block = as ++ bs ∧ s.members = as ++ bs' ∧ ∃ m ∈ as, m.1 = name := by
  have hmember := exists_of_uses hname
  by_cases hbezier : file = .bezierVert
  · -- it is the vertex stage
    have hvertex : file = s.vertexStage := by
      rcases List.mem_cons.mp hfile with hvertex | hfragment
      · exact hvertex
      · rw [List.mem_singleton.mp hfragment, Shader.fragmentStage] at hbezier
        split at hbezier
        · cases hbezier
        · split at hbezier <;> cases hbezier
        · split at hbezier <;> cases hbezier
    rw [if_pos hbezier] at hmember
    refine ⟨file.block, [], [], (List.append_nil _).symm, ?_, hmember⟩
    rw [List.append_nil, hvertex, block_vertexStage]
  · rw [if_neg hbezier] at hmember
    obtain ⟨bs, hblock⟩ := exists_base file
    exact ⟨baseBlock, bs, _, hblock, rfl, hmember⟩

end Members

/-! ## Reading the block

What was written is read back at the offsets that the stage has declared. The lemma about the
writer gives the bytes, and the declarations give the names. -/

/-- Numbers one after another are read back, by induction on how many there are. -/
theorem readWords_componentsAt {buf : Nat → UInt8} {pos : Nat} {fs : List Word}
    (h : ∀ c ∈ componentsAt pos fs, ∀ i (hi : i < c.2.length), buf (c.1 + i) = c.2[i]) :
    readWords buf pos fs.length = fs := by
  induction fs generalizing pos with
  | nil => rfl
  | cons f fs ih =>
    rw [List.length_cons, readWords, ih fun c hc => h c (List.mem_cons_of_mem _ hc)]
    congr 1
    apply Vector.ext
    intro i hi
    have hfirst := h (pos, f.toList) List.mem_cons_self i (by simpa using hi)
    simpa [readWord] using hfirst

section Read

variable {K : Type} [Mul K] (n : Numbers K) (state : RenderState K) (texture : Option (QRectF K))
  (mat : Material K) (s : Shader)

/-- The matrix comes first. The writer can therefore assume that it begins at the start of the
block, and meets no other matrix. -/
theorem exists_matrix : ∃ m us, (∀ u ∈ us, u.isMatrix = false) ∧
    (s.members.map fun m => s.uniform n state texture mat m.1) = .matrix4x4 m :: us := by
  refine ⟨_, (s.members.map fun m => s.uniform n state texture mat m.1).tail, ?_, rfl⟩
  intro u hu
  rw [← List.map_tail] at hu
  obtain ⟨m, hm, rfl⟩ := List.mem_map.mp hu
  -- none of the other members is the matrix
  have hname : m.1 ≠ .qtMatrix := by
    have hall : ∀ m ∈ baseBlock.tail ++ pointsBlock, m.1 ≠ .qtMatrix := by decide
    apply hall m
    have hm : m ∈ baseBlock.tail ++ if s.beziergon then pointsBlock else [] := hm
    rcases List.mem_append.mp hm with hm | hm
    · exact List.mem_append_left _ hm
    · split at hm
      · exact List.mem_append_right _ hm
      · cases hm
  generalize m.1 = name at hname
  cases name with
  | qtMatrix => exact absurd rfl hname
  | _ => rfl

/-- What is written can be read back, in a buffer that holds the block of the vertex stage. -/
theorem updateUniformData_read_back (mem : Nat → UInt8) {size : Nat}
    (hsize : s.vertexStage.blockSize ≤ size) {pos : Nat} {u : Uniform}
    (hu : (pos, u) ∈ place Uniform.baseAlignment Uniform.byteSize 0
      (s.members.map fun m => s.uniform n state texture mat m.1)) :
    readWords (s.updateUniformData n state texture mat { buf := mem, size }).2.buf pos
      u.components.length = u.components := by
  rw [updateUniformData_eq]
  have hfits : std140Size (s.members.map fun m => s.uniform n state texture mat m.1) ≤ size := by
    rw [ShaderFile.blockSize, block_vertexStage] at hsize
    rwa [std140Size, extent_map fun m hm => uniform_type n state texture mat s hm]
  obtain ⟨m, us, hus, heq⟩ := exists_matrix n state texture mat s
  rw [heq] at hu hfits ⊢
  apply readWords_componentsAt
  intro c hc i hi
  exact UniformWriter.read_back mem hus hfits (List.mem_flatMap.mpr ⟨(pos, u), hu, hc⟩) hi

/-- **The shaders read the material**: after `updateUniformData`, with a buffer for the blocks of
both stages, each of the stages finds what the material holds under every name that its `main`
uses.

The fragment stage may declare less than what is written, or more; what it uses is in the
beginning that both have in common, where the offsets agree. -/
theorem shaders_read_material (debug : Bool) (mem : Nat → UInt8) (size : Nat)
    (hsize : ∀ file ∈ s.stages debug, file.blockSize ≤ size) :
    ∀ file ∈ s.stages debug, ∀ name ∈ file.uses,
      file.read (s.updateUniformData n state texture mat { buf := mem, size }).2.buf name =
        some (s.uniform n state texture mat name).components := by
  intro file hfile name hname
  obtain ⟨as, bs, bs', hblock, hmembers, m, hm, hmname⟩ := exists_begins s hfile hname
  have htype {m : Member} (hm : m ∈ as) :=
    uniform_type n state texture mat s (hmembers ▸ List.mem_append_left bs' hm)
  obtain ⟨pos, a, ha, haname, hfind, hplace⟩ := exists_place_of_begins
    (p := fun m : Member => decide (m.1 = name)) (fun m hm => htype hm)
    ⟨m, hm, decide_eq_true hmname⟩ bs bs' 0
  rw [← hblock] at hfind
  rw [← hmembers] at hplace
  have hread := updateUniformData_read_back n state texture mat s mem
    (hsize _ List.mem_cons_self) hplace
  -- as many numbers are read as have been written
  have hlength : (s.uniform n state texture mat a.1).components.length = a.2.size := by
    have hbytes := (htype ha).2
    unfold Uniform.byteSize UniformType.byteSize at hbytes
    omega
  rw [hlength, of_decide_eq_true haname] at hread
  rw [ShaderFile.read, ShaderFile.layout, hfind, Option.map_some]
  exact congrArg some hread

end Read

/-- How 0 and 1 are stored. -/
def zeroOne : Numbers Int where
  float k := if k = 1 then #v[0, 0, 128, 63] else #v[0, 0, 0, 0]
  int k := if k = 1 then #v[1, 0, 0, 0] else #v[0, 0, 0, 0]

/-- A Beziergon with its corners in place, and its material. -/
def squareBeziergon : Beziergon Int where
  width := 1
  height := 1
  point
    | .topRight => ⟨1, 0⟩
    | .bottomLeft => ⟨0, 1⟩
    | .bottomRight => ⟨1, 1⟩
    | _ => ⟨0, 0⟩
  connected _ := true

def whiteMaterial : Material Int where
  baseUniforms := ⟨![0, 0, 0, 0], ![0, 0, 0, 0], ![0, 0, 0, 0], 0, 0, 0⟩
  color := ![1, 1, 1, 1]
  dest := ⟨0, 0, 1, 1⟩
  rotation := 0
  xScale := 1
  yScale := 1
  point _ := ⟨0, 0⟩

theorem shaders_read_material_squareBeziergon :
    ShaderFile.bezierVert.read (Shader.updateUniformData ⟨.simpleSampled, true⟩ zeroOne ⟨1, 1⟩
        (some ⟨0, 0, 1, 1⟩) (whiteMaterial.updateBeziergonState squareBeziergon)
        { buf := fun _ => 0, size := 248 }).2.buf (.point .bottomLeft) =
      some [#v[0, 0, 0, 0], #v[0, 0, 128, 63]] :=
  shaders_read_material zeroOne ⟨1, 1⟩ (some ⟨0, 0, 1, 1⟩)
    (whiteMaterial.updateBeziergonState squareBeziergon) ⟨.simpleSampled, true⟩ false (fun _ => 0)
    248 (by decide) .bezierVert List.mem_cons_self (.point .bottomLeft) (by decide)

end SamplerGeometry
