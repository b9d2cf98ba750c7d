import ShaderInterface.Interface
import ShaderInterface.Layout
import ShaderInterface.Text.Identifier

set_option autoImplicit false

namespace ShaderInterface

structure UnknownType where
  name : Text
  deriving DecidableEq

namespace Header

/-- The name of the shader in a file, when the file name is an identifier with the extension of
shaders. -/
def shaderName? (fileName : Text) : Option Text :=
  (Text.dropEnd? ".wgsl" fileName).filter Text.isIdentifier

/-- A field name as a C identifier. -/
def member (name : Text) : Text := Text.replaceChar '.' '_' name

/-- The member of a C struct for a field. Samplers and textures have none. -/
def memberLine (primitives : PrimitiveTable) (field : Field) : Except UnknownType Text :=
  match primitives.find? field.typeName with
  | none => .error ⟨field.typeName⟩
  | some primitive =>
      .ok (match primitive.cType? with
        | none => []
        | some cType => "  " ++ cType ++ " " ++ member field.name ++ ";\n")

def struct (primitives : PrimitiveTable) (name : Text) (fields : List Field) :
    Except UnknownType Text :=
  (fields.mapM (memberLine primitives)).map fun members =>
    "struct " ++ name ++ " \x7b\n" ++ members.flatten ++ "\x7d;\n\n"

def descriptorType (block : Block) : Text :=
  if block.isResource then "VK_DESCRIPTOR_TYPE_COMBINED_IMAGE_SAMPLER"
  else "VK_DESCRIPTOR_TYPE_UNIFORM_BUFFER"

def stageFlag : Stage → Text
  | .vertex => "VK_SHADER_STAGE_VERTEX_BIT"
  | .fragment => "VK_SHADER_STAGE_FRAGMENT_BIT"

def bindsNoLater (a b : Block) : Bool :=
  decide (a.group < b.group) || (a.group == b.group && decide (a.binding ≤ b.binding))

/-- The uniforms by group and binding. Those that agree in both keep their order. -/
def sortedBindings (d : Declarations) : List Block := d.uniforms.values.mergeSort bindsNoLater

def bindingRow (primitives : PrimitiveTable) (block : Block) : Text :=
  "  \x7b .group = " ++ Text.decimal block.group ++
  ", .binding = " ++ Text.decimal block.binding ++
  ", .type = " ++ descriptorType block ++
  ", .size = " ++ Text.decimal (fieldsSize primitives block.fields) ++ " \x7d,\n"

def rangeRow (range : PushRange) : Text :=
  "  \x7b .stageFlags = " ++ stageFlag range.stage ++
  ", .offset = " ++ Text.decimal range.offset ++
  ", .size = " ++ Text.decimal range.size ++ " \x7d,\n"

def countLine (name : Text) (rows : List Text) : Text :=
  "const u32 " ++ name ++ " = " ++ Text.decimal rows.length ++ ";\n"

/-- An array with the rows, unless there are none. -/
def rowArray (elementType name : Text) (rows : List Text) : Text :=
  if rows = [] then []
  else "const " ++ elementType ++ " " ++ name ++ "[] = \x7b\n" ++ rows.flatten ++ "\x7d;\n"

def bindingTable (primitives : PrimitiveTable) (shaderName : Text) (d : Declarations) : Text :=
  let rows := (sortedBindings d).map (bindingRow primitives)
  countLine (shaderName ++ "_binding_count") rows ++
  rowArray "ShaderBindingSpec" (shaderName ++ "_bindings") rows

def rangeTable (primitives : PrimitiveTable) (shaderName : Text) (d : Declarations) : Text :=
  let rows := (d.pushRanges primitives).map rangeRow
  countLine (shaderName ++ "_push_constant_range_count") rows ++
  rowArray "VkPushConstantRange" (shaderName ++ "_push_constant_ranges") rows

/-- The C structs of a shader: uniform buffers, then push constants. -/
def structs (primitives : PrimitiveTable) (shaderName : Text) (d : Declarations) :
    Except UnknownType (List Text) := do
  let buffers ← (d.uniforms.values.filter fun block => !block.isResource).mapM fun block =>
    struct primitives (shaderName ++ "_" ++ block.name) block.fields
  let pushConstants ← (d.vertexPushConstants.values ++ d.fragmentPushConstants.values).mapM
    fun block => struct primitives (shaderName ++ "_" ++ block.name ++ "_push") block.fields
  return buffers ++ pushConstants

def shaderPart (primitives : PrimitiveTable) (shaderName : Text) (d : Declarations) :
    Except UnknownType Text :=
  (structs primitives shaderName d).map fun structs =>
    "// " ++ shaderName ++ "\n" ++ structs.flatten ++ bindingTable primitives shaderName d ++
    rangeTable primitives shaderName d ++ "\n"

/-- What stands above the parts of the shaders. -/
def preamble : Text :=
  "// Generated shader reflection header, do not edit\n" ++
  "#pragma once\n#include <stdint.h>\n#include <glm/glm.hpp>\n#include \"vulkan_base.h\"\n\n" ++
  "struct ShaderBindingSpec \x7b\n  u32 group;\n  u32 binding;\n" ++
  "  VkDescriptorType type;\n  u32 size;\n\x7d;\n\n"

end Header
end ShaderInterface
