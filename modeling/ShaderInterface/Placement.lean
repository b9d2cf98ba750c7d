import ShaderInterface.Diagnostic
import ShaderInterface.Text.Digit

set_option autoImplicit false

namespace ShaderInterface

/-- What stands in front of a declaration. -/
structure Placement where
  group : Int
  binding : Int
  tag? : Option Text
  deriving DecidableEq

namespace Placement

/-- The number in the first parentheses of `text`, and what stands behind them. -/
def number (line text : Text) : Except ShaderError (Nat × Text) :=
  match Text.cutAt? '(' text with
  | none => .error (.badPlacement line .incomplete)
  | some (_, inside) =>
      match Text.cutAt? ')' inside with
      | none => .error (.badPlacement line .unterminated)
      | some (content, behind) =>
          let literal := Text.trim content
          if literal = [] ∨ !literal.all Text.isDigit then
            .error (.badPlacement line (.notUnsigned literal))
          else
            match Text.numeral? literal with
            | none => .error (.unreadableNumber literal)
            | some value => .ok (value, behind)

/-- What stands behind the opening parenthesis of an attribute that `text` starts with. -/
def openAttribute? (text : Text) : Option Text :=
  match text.dropWhile Text.isBlank with
  | '@' :: named =>
      if named.head?.any Text.isWord then
        match (named.dropWhile Text.isWord).dropWhile Text.isBlank with
        | '(' :: inside => some inside
        | _ => none
      else none
  | _ => none

/-- The tag that `text` starts with, if any, and what stands behind it. -/
def tag (line text : Text) : Except ShaderError (Option Text × Text) :=
  match openAttribute? text with
  | none => .ok (none, text)
  | some inside =>
      match Text.cutAt? ')' inside with
      | none => .error (.badPlacement line .unterminatedTag)
      | some (content, behind) => .ok (some (Text.trim content), behind)

/-- The annotation of a line, and the text of the line behind it. -/
def ofLine (line : Text) : Except ShaderError (Placement × Text) := do
  let (group, behindGroup) ← number line line
  let (binding, behindBinding) ← number line behindGroup
  let (tag?, rest) ← tag line behindBinding
  return (⟨group, binding, tag?⟩, rest)

end Placement
end ShaderInterface
