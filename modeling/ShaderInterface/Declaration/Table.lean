import ShaderInterface.Diagnostic
import ShaderInterface.Field
import ShaderInterface.Primitive

set_option autoImplicit false

namespace ShaderInterface

abbrev StructTable := Table Text (List Field)

structure Block where
  name : Text
  group : Int
  binding : Int
  fields : List Field
  deriving DecidableEq

structure PushConstant extends Block where
  stage : Stage
  deriving DecidableEq

/-- All declarations of a shader. -/
structure Declarations where
  structs : StructTable
  uniforms : Table Text Block
  vertexPushConstants : Table Text PushConstant
  fragmentPushConstants : Table Text PushConstant
  deriving DecidableEq

namespace Block

/-- Whether a field is a sampler or texture, so that the uniform gets an image descriptor. -/
def isResource (block : Block) : Bool :=
  block.fields.any fun field => (Primitive.known.find? field.typeName).any Primitive.isResource

def addField (field : Field) (block : Block) : Block :=
  { block with fields := block.fields ++ [field] }

end Block

namespace Declarations

def empty : Declarations := ⟨∅, ∅, ∅, ∅⟩

def pushConstants (d : Declarations) : Stage → Table Text PushConstant
  | .vertex => d.vertexPushConstants
  | .fragment => d.fragmentPushConstants

/-- The declarations with the push constants of a stage changed. -/
def mapPushConstants (d : Declarations) (stage : Stage)
    (f : Table Text PushConstant → Table Text PushConstant) : Declarations :=
  match stage with
  | .vertex => { d with vertexPushConstants := f d.vertexPushConstants }
  | .fragment => { d with fragmentPushConstants := f d.fragmentPushConstants }

def addStruct (d : Declarations) (name : Text) (fields : List Field) : Declarations :=
  { d with structs := d.structs.insert name fields }

def addUniform (d : Declarations) (block : Block) : Declarations :=
  { d with uniforms := d.uniforms.insert block.name block }

/-- The declarations with a push constant, in the table of its stage. -/
def addPushConstant (d : Declarations) (block : PushConstant) : Declarations :=
  d.mapPushConstants block.stage (·.insert block.name block)

def declares (d : Declarations) (kind : DeclarationKind) (name : Text) : Bool :=
  match kind with
  | .struct => decide (name ∈ d.structs)
  | .uniform => decide (name ∈ d.uniforms)
  | .pushConstant stage => decide (name ∈ d.pushConstants stage)

/-- The warning due when something of the kind is declared under the name. -/
def redeclared (d : Declarations) (kind : DeclarationKind) (name : Text) : List Notice :=
  if d.declares kind name then [.redeclared kind name] else []

def fields (d : Declarations) (kind : DeclarationKind) (name : Text) : List Field :=
  match kind with
  | .struct => (d.structs.find? name).getD []
  | .uniform => ((d.uniforms.find? name).map Block.fields).getD []
  | .pushConstant stage =>
      (((d.pushConstants stage).find? name).map fun block => block.fields).getD []

/-- The declarations with `field` at the end of the fields declared for the name. -/
def addField (d : Declarations) (kind : DeclarationKind) (name : Text) (field : Field) :
    Declarations :=
  match kind with
  | .struct => { d with structs := d.structs.modify name (· ++ [field]) }
  | .uniform => { d with uniforms := d.uniforms.modify name (Block.addField field) }
  | .pushConstant stage =>
      d.mapPushConstants stage fun table =>
        table.modify name fun block => { block with toBlock := block.toBlock.addField field }

end Declarations
end ShaderInterface
