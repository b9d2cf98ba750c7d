import ShaderInterface.Brackets
import ShaderInterface.Field
import ShaderInterface.SourceLines

set_option autoImplicit false

namespace ShaderInterface

/-- The signature of an entry point. Parameters have neither attributes nor blanks. -/
structure Signature where
  parameters : List Text
  returnText : Text
  deriving DecidableEq

namespace Signature

/-- The parameters in a parameter list. Empty ones are dropped. -/
def splitList (list : Text) : List Text :=
  (Brackets.pieces (some ',') (Text.squeeze (Attribute.strip list))).filter fun p => !p.isEmpty

def returnOf (text : Text) : Text :=
  match Text.cutAtPhrase? "->" text with
  | some cut => Text.trim cut.2
  | none => []

/-- The text from the first line with `marker` to the next line with an opening brace. -/
def passage (marker : Text) (lines : List Text) : Except ShaderError Text :=
  match SourceLines.find? marker lines with
  | none => .error (.noEntry marker)
  | some start =>
      match SourceLines.find? "\x7b" (lines.drop start) with
      | none => .error (.noBraceLine marker)
      | some size => .ok (List.intercalate " ".toList ((lines.drop start).take (size + 1)))

/-- The signature in a passage that holds `marker`. -/
def ofPassage (marker text : Text) : Except ShaderError Signature :=
  match Text.cutAtPhrase? marker text with
  | none => .error (.noEntry marker)
  | some (_, behind) =>
      match Text.cutAt? '\x7b' behind with
      | none => .error (.noBrace marker)
      | some (head, _) =>
          match Text.cutAt? '(' head with
          | none => .error (.noParameterList marker)
          | some (_, inside) =>
              match Brackets.closeParenthesis? 0 inside with
              | none => .error (.unclosedParameterList marker)
              | some (list, after) => .ok ⟨splitList list, returnOf after⟩

/-- The signature that follows `marker`. -/
def ofLines (marker : Text) (lines : List Text) : Except ShaderError Signature :=
  (passage marker lines).bind (ofPassage marker)

def input (interface parameter : Text) : Except ShaderError Field :=
  match Text.cutAt? ':' parameter with
  | none => .error (.badParameter interface parameter)
  | some (name, typeName) =>
      if name = [] ∨ typeName = [] then .error (.badParameter interface parameter)
      else .ok ⟨name, typeName⟩

def inputs (interface : Text) (parameters : List Text) : Except ShaderError (List Field) :=
  parameters.mapM (input interface)

/-- The inputs of the fragment stage. A parameter whose name occurs in the return annotation of the
vertex stage is fed by that stage and left out. -/
def fragmentInputs (parameters : List Text) (vertexReturn : Text) :
    Except ShaderError (List Field) :=
  (inputs Stage.fragment.entry parameters).map fun fields =>
    fields.filter fun field => !Text.includes field.name vertexReturn

end Signature
end ShaderInterface
