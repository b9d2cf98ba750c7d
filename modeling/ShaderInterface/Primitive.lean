import ShaderInterface.Table
import ShaderInterface.Text.Basic

set_option autoImplicit false

namespace ShaderInterface

/-- A type known by name. Samplers and textures have no storage on the host, hence no C type. -/
structure Primitive where
  name : Text
  byteSize : Int
  cType? : Option Text
  deriving DecidableEq

abbrev PrimitiveTable := Table Text Primitive

namespace Primitive

/-- Whether the type is a sampler or texture, which a descriptor stands for. -/
def isResource (p : Primitive) : Bool := p.cType?.isNone

/-- A scalar of a shading language, with what its vectors are called. -/
structure Scalar where
  name : Text
  byteSize : Nat
  cType : Text
  vectorLead : Text
  shortSuffix? : Option Text

def wgslScalars : List Scalar :=
  [⟨"f32", 4, "f32", "", some "f"⟩,
   ⟨"i32", 4, "i32", "i", some "i"⟩,
   ⟨"u32", 4, "u32", "u", some "u"⟩,
   ⟨"f16", 2, "u16", "u16", some "h"⟩,
   ⟨"bool", 4, "u32", "b", none⟩]

def glslScalars : List Scalar :=
  [⟨"float", 4, "f32", "", none⟩,
   ⟨"int", 4, "i32", "i", none⟩,
   ⟨"uint", 4, "u32", "u", none⟩,
   ⟨"double", 8, "f64", "d", none⟩,
   ⟨"bool", 4, "u32", "b", none⟩]

/-- Vectors and matrices have two to four components each way. -/
def extents : List Nat := [2, 3, 4]

def stored (name : Text) (byteSize : Nat) (cType : Text) : Primitive := ⟨name, byteSize, some cType⟩

def resource (name : Text) : Primitive := ⟨name, 0, none⟩

def Scalar.primitive (s : Scalar) : Primitive := stored s.name s.byteSize s.cType

/-- The vectors of a WGSL scalar with n components, under their long and short names. -/
def wgslVectors (s : Scalar) (n : Nat) : List Primitive :=
  let cType : Text := "glm::" ++ s.vectorLead ++ "vec" ++ Text.decimal n
  let long : Text := "vec" ++ Text.decimal n ++ "<" ++ s.name ++ ">"
  stored long (n * s.byteSize) cType ::
    (s.shortSuffix?.map fun suffix =>
      stored ("vec" ++ Text.decimal n ++ suffix) (n * s.byteSize) cType).toList

/-- A vector without a scalar holds floats. -/
def bareVector (n : Nat) : Primitive :=
  stored ("vec" ++ Text.decimal n) (n * 4) ("glm::vec" ++ Text.decimal n)

/-- Matrices hold floats, under three names each. -/
def wgslMatrices (columns rows : Nat) : List Primitive :=
  let name : Text := "mat" ++ Text.decimal columns ++ "x" ++ Text.decimal rows
  [name, name ++ "f", name ++ "<f32>"].map fun spelling =>
    stored spelling (columns * rows * 4) ("glm::" ++ name)

/-- The vector of a GLSL scalar with n components. -/
def glslVector (s : Scalar) (n : Nat) : Primitive :=
  let name : Text := s.vectorLead ++ "vec" ++ Text.decimal n
  stored name (n * s.byteSize) ("glm::" ++ name)

/-- The square matrix of floats in GLSL. -/
def glslMatrix (n : Nat) : Primitive :=
  stored ("mat" ++ Text.decimal n) (n * n * 4) ("glm::mat" ++ Text.decimal n)

/-- WGSL textures whose texels have a scalar type. -/
def sampledTextures : List Text :=
  ["texture_1d", "texture_2d", "texture_2d_array", "texture_3d", "texture_cube",
   "texture_cube_array", "texture_multisampled_2d"]

/-- The scalar types that texels have. -/
def texels : List Text := ["f32", "i32", "u32"]

/-- A texture with its texel type. -/
def sampledTexture (texture texel : Text) : Primitive := resource (texture ++ "<" ++ texel ++ ">")

/-- WGSL samplers and the textures without a texel type. -/
def wgslResources : List Text :=
  ["sampler", "sampler_comparison", "texture_depth_2d", "texture_depth_2d_array",
   "texture_depth_cube", "texture_depth_cube_array", "texture_depth_multisampled_2d",
   "texture_external"]

def glslResources : List Text :=
  ["sampler1D", "sampler2D", "sampler3D", "samplerCube", "sampler2DRect", "sampler1DArray",
   "sampler2DArray", "samplerCubeArray"]

def wgslNumeric : List Primitive :=
  (wgslScalars.flatMap fun s => s.primitive :: extents.flatMap (wgslVectors s)) ++
  extents.map bareVector ++
  extents.flatMap fun columns => extents.flatMap (wgslMatrices columns)

/-- The numeric types of GLSL whose names WGSL does not have. -/
def glslNumeric : List Primitive :=
  ((glslScalars.flatMap fun s => s.primitive :: extents.map (glslVector s)) ++
    extents.map glslMatrix).filter fun p => !(wgslNumeric.map Primitive.name).contains p.name

def resources : List Primitive :=
  sampledTextures.flatMap (fun texture => texels.map (sampledTexture texture)) ++
  (wgslResources ++ glslResources).map resource

/-- All primitive types that shaders are read with, unless told otherwise. -/
def known : PrimitiveTable :=
  Table.ofList ((wgslNumeric ++ glslNumeric ++ resources).map fun p => (p.name, p))

/-- The size of the named type. A name that is not in the table counts as no bytes. -/
def sizeOf (primitives : PrimitiveTable) (typeName : Text) : Int :=
  ((primitives.find? typeName).map Primitive.byteSize).getD 0

end Primitive
end ShaderInterface
