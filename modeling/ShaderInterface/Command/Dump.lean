import ShaderInterface.Interface
import ShaderInterface.Text.Quoted

set_option autoImplicit false

namespace ShaderInterface.Dump

def field (f : Field) : Text :=
  "Field(name=" ++ Text.quoted f.name ++ ", type_name=" ++ Text.quoted f.typeName ++ ")"

def fields (fs : List Field) : Text :=
  "[" ++ List.intercalate ", ".toList (fs.map field) ++ "]"

def structLine (name : Text) (members : List Field) : Text :=
  "struct " ++ name ++ ": " ++ fields members

def uniformLine (block : Block) : Text :=
  "uniform " ++ block.name ++ " (group " ++ Text.decimal block.group ++ ", binding " ++
    Text.decimal block.binding ++ "): " ++ fields block.fields

def pushConstantLine (block : PushConstant) : Text :=
  block.stage.name ++ " push constant " ++ block.name ++ ": " ++ fields block.fields

def lines (shaderName : Text) (i : Interface) : List Text :=
  ("-------- " ++ shaderName) ::
  i.structs.entries.map (fun entry => structLine entry.1 entry.2) ++
  i.uniforms.values.map uniformLine ++
  i.vertexPushConstants.values.map pushConstantLine ++
  i.fragmentPushConstants.values.map pushConstantLine ++
  ["vs_main inputs: " ++ fields i.vertexInputs, "fs_main inputs: " ++ fields i.fragmentInputs]

end ShaderInterface.Dump
