import ShaderInterface.Stage
import ShaderInterface.Text.Blank

set_option autoImplicit false

namespace ShaderInterface

inductive Colour where
  | red
  | yellow

/-- `text` in a colour, the terminal's own colour restored behind it. -/
def Colour.paint (colour : Colour) (text : Text) : Text :=
  let start : Text := match colour with
    | .red => "\x1b[31m"
    | .yellow => "\x1b[33m"
  start ++ text ++ "\x1b[0m"

inductive PlacementFault where
  | unterminated
  | notUnsigned (literal : Text)
  | incomplete
  | unterminatedTag
  | withoutDeclaration
  deriving DecidableEq

/-- A part of the state of a scanner that not every target has. -/
inductive StatePart where
  | name
  | stage
  | placement
  deriving DecidableEq

/-- Why a shader has no interface. -/
inductive ShaderError where
  | unclosedBlock (line : Nat)
  | nestedBlock (line : Nat)
  | noEntry (marker : Text)
  | noBraceLine (marker : Text)
  | noBrace (marker : Text)
  | noParameterList (marker : Text)
  | unclosedParameterList (marker : Text)
  | badParameter (interface parameter : Text)
  | badPlacement (line : Text) (fault : PlacementFault)
  | unreadableNumber (literal : Text)
  | unnamedStruct (line : Text)
  | structWithoutBody (name : Text) (line? : Option Text)
  | unnamedBlock (line : Text)
  | noField (line : Text)
  | strayField
  | undeclared (name : Text)
  | missing (part : StatePart)
  | unclosedBody (name : Text)
  | unresolved (interface field typeName : Text)
  | recursiveStruct (cycle : List Text)
  deriving DecidableEq

def PlacementFault.message : PlacementFault → Text
  | unterminated => "Unterminated ( in group/binding annotation"
  | notUnsigned literal =>
      "Expected unsigned integer in group/binding annotation, got '" ++ literal ++ "'"
  | incomplete => "Expected @group(N) @binding(M)"
  | unterminatedTag => "Unterminated ( in push constant tag"
  | withoutDeclaration => "Annotation is not followed by a declaration"

namespace ShaderError

/-- A message with the line that it is about below it. -/
def onLine (message line : Text) : Text := message ++ "\n\t" ++ line

def message : ShaderError → Text
  | unclosedBlock line =>
      "#Data block starting at line " ++ Text.decimal line ++ " has no #end"
  | nestedBlock line =>
      "#Data at line " ++ Text.decimal line ++ " is nested inside another #Data block"
  | noEntry marker => "No line containing '" ++ marker ++ "'"
  | noBraceLine marker => "'" ++ marker ++ "' is not followed by a line with \x7b"
  | noBrace marker => "'" ++ marker ++ "' is not followed by \x7b"
  | noParameterList marker => "'" ++ marker ++ "' has no parameter list"
  | unclosedParameterList marker => "Parameter list of '" ++ marker ++ "' is never closed"
  | badParameter interface parameter =>
      interface ++ ": parameter '" ++ parameter ++ "' is not of the form name: type"
  | badPlacement line fault => onLine fault.message (Text.trim line)
  | unreadableNumber literal => "Not a number: '" ++ literal ++ "'"
  | unnamedStruct line => onLine "struct without a name" line
  | structWithoutBody name line? =>
      let message : Text := "struct " ++ name ++ " has no body"
      match line? with
      | some line => onLine message line
      | none => message
  | unnamedBlock line => onLine "Block declaration without a name" line
  | noField line => onLine "Expected name: type after group/binding annotation" line
  | strayField => "Field found outside of any struct or block body"
  | undeclared name => name
  | missing _ => "None"
  | unclosedBody name => "Body of " ++ name ++ " is never closed with \x7d"
  | unresolved interface field typeName =>
      interface ++ ": field '" ++ field ++ "' has unknown type '" ++ typeName ++ "'"
  | recursiveStruct cycle =>
      "Recursive struct definition: " ++ List.intercalate " -> ".toList cycle

/-- Whether the error is reported as one of the shader. A number that cannot be read, because of its
length or a digit without a place in decimal numbers, ends the run instead, and so would a field
for a declaration that is not there or a state without a part that is asked of it. -/
def isReported : ShaderError → Bool
  | unreadableNumber _ => false
  | undeclared _ => false
  | missing _ => false
  | _ => true

end ShaderError

/-- What a declaration declares. -/
inductive DeclarationKind where
  | struct
  | uniform
  | pushConstant (stage : Stage)
  deriving DecidableEq

def DeclarationKind.name : DeclarationKind → Text
  | struct => "struct"
  | uniform => "uniform"
  | pushConstant stage => stage.name ++ " push constant"

/-- A warning that does not stop the reading of a shader. -/
inductive Notice where
  | redeclared (kind : DeclarationKind) (name : Text)
  | skippedPart (part : Text) (body? : Option Text)
  | noDataBlocks (source : Text)
  deriving DecidableEq

def Notice.line (notice : Notice) : Text :=
  Colour.yellow.paint ("Warning: " ++ match notice with
    | redeclared kind name =>
        kind.name ++ " " ++ name ++ " redeclared, replacing the earlier definition"
    | skippedPart part body? =>
        "skipping '" ++ part ++ "' in body of " ++ body?.getD "None" ++ ", expected name: type"
    | noDataBlocks source => source ++ " has no #Data blocks")

end ShaderInterface
