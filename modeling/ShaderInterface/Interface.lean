import ShaderInterface.Declaration.Containment
import ShaderInterface.Declaration.Scanner
import ShaderInterface.EntryPoint

set_option autoImplicit false

namespace ShaderInterface

structure Interface extends Declarations where
  vertexInputs : List Field
  fragmentInputs : List Field
  deriving DecidableEq

/-- A reading's warnings, and what came of it. -/
structure Outcome (α : Type) where
  notices : List Notice
  result : Except ShaderError α

/-- What shaders are read with. -/
structure Settings where
  primitives : PrimitiveTable
  order : ChildOrder

/-- The first field whose type is neither primitive nor a struct. -/
def findUnresolved? (primitives : PrimitiveTable) (structs : StructTable) (fields : List Field) :
    Option Field :=
  fields.find? fun field =>
    !decide (field.typeName ∈ primitives) && !decide (field.typeName ∈ structs)

/-- Requires that the types of all fields are known. -/
def checkResolved (primitives : PrimitiveTable) (structs : StructTable) (interface : Text)
    (fields : List Field) : Except ShaderError Unit :=
  match findUnresolved? primitives structs fields with
  | none => .ok ()
  | some field => .error (.unresolved interface field.name field.typeName)

namespace Declarations

/-- The declarations in the data blocks of a source. -/
def ofBlocks (blocks : List (List Text)) : Outcome Declarations :=
  let (result, scanner) := (Scanner.scan blocks.flatten).run .start
  ⟨scanner.notices, result.map fun () => scanner.declared⟩

end Declarations

namespace Interface

/-- A declaration by kind and name, with its fields. -/
def part (kind : DeclarationKind) (name : Text) (fields : List Field) : Text × List Field :=
  (kind.name ++ ' ' :: name, fields)

/-- What an interface names, with its fields, in the order in which types are checked. -/
def parts (i : Interface) : List (Text × List Field) :=
  let push (stage : Stage) (block : PushConstant) := part (.pushConstant stage) block.name block.fields
  i.structs.entries.map (fun entry => part .struct entry.1 entry.2) ++
  i.vertexPushConstants.values.map (push .vertex) ++
  i.fragmentPushConstants.values.map (push .fragment) ++
  i.uniforms.values.map (fun block => part .uniform block.name block.fields) ++
  [(Stage.vertex.entry, i.vertexInputs), (Stage.fragment.entry, i.fragmentInputs)]

/-- Requires that the types of all fields are known, and reports the first that is not. -/
def check (primitives : PrimitiveTable) (i : Interface) : Except ShaderError Unit :=
  i.parts.forM fun part => checkResolved primitives i.structs part.1 part.2

/-- The interface with every struct typed field replaced by what it stands for. Push constants are
addressed by the names of the leaves, everything else by paths. -/
def expand (order : ChildOrder) (flat : StructTable) (i : Interface) : Interface :=
  let paths := Field.expandAll flat .path order
  let leaves := Field.expandAll flat .leaf order
  let push (block : PushConstant) : PushConstant :=
    { block with toBlock := { block.toBlock with fields := leaves block.fields } }
  { structs := flat
    uniforms := i.uniforms.map fun _ block => { block with fields := paths block.fields }
    vertexPushConstants := i.vertexPushConstants.map fun _ => push
    fragmentPushConstants := i.fragmentPushConstants.map fun _ => push
    vertexInputs := paths i.vertexInputs
    fragmentInputs := paths i.fragmentInputs }

/-- Nothing is replaced until every type is known. -/
def resolve (settings : Settings) (i : Interface) : Except ShaderError Interface := do
  i.check settings.primitives
  let flat ← StructTable.flatten i.structs settings.order
  return i.expand settings.order flat

def withInputs (declared : Declarations) (lines : List Text) : Except ShaderError Interface := do
  let vertex ← Signature.ofLines Stage.vertex.entry lines
  let fragment ← Signature.ofLines Stage.fragment.entry lines
  let vertexInputs ← Signature.inputs Stage.vertex.entry vertex.parameters
  let fragmentInputs ← Signature.fragmentInputs fragment.parameters vertex.returnText
  return { toDeclarations := declared, vertexInputs, fragmentInputs }

/-- The interface that the lines of a source state, before types are resolved. -/
def ofLines (sourceName : Text) (lines : List Text) : Outcome Interface :=
  match SourceLines.dataBlocks lines with
  | .error error => ⟨[], .error error⟩
  | .ok blocks =>
      let missing := if blocks = [] then [Notice.noDataBlocks sourceName] else []
      let declared := Declarations.ofBlocks blocks
      ⟨missing ++ declared.notices, declared.result.bind fun d => withInputs d lines⟩

def ofSource (settings : Settings) (sourceName source : Text) : Outcome Interface :=
  let stated := ofLines sourceName (SourceLines.ofText source)
  ⟨stated.notices, stated.result.bind (resolve settings)⟩

end Interface
end ShaderInterface
