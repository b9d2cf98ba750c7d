import ShaderInterface.Declaration.Table

set_option autoImplicit false

namespace ShaderInterface

def fieldsSize (primitives : PrimitiveTable) : List Field → Int
  | [] => 0
  | field :: rest => Primitive.sizeOf primitives field.typeName + fieldsSize primitives rest

/-- The bytes that a push constant occupies. -/
structure PushRange where
  name : Text
  stage : Stage
  offset : Int
  size : Int
  deriving DecidableEq

namespace PushRange

/-- Ranges from `offset` on, one for each push constant. -/
def pack (primitives : PrimitiveTable) (offset : Int) : List PushConstant → List PushRange
  | [] => []
  | block :: rest =>
      let size := fieldsSize primitives block.fields
      ⟨block.name, block.stage, offset, size⟩ :: pack primitives (offset + size) rest

end PushRange

def Declarations.pushRanges (primitives : PrimitiveTable) (d : Declarations) : List PushRange :=
  PushRange.pack primitives 0 (d.vertexPushConstants.values ++ d.fragmentPushConstants.values)

end ShaderInterface
