import ShaderInterface.Attribute

set_option autoImplicit false

namespace ShaderInterface

/-- A member of a struct or block, or an input of an entry point. -/
structure Field where
  name : Text
  typeName : Text
  deriving DecidableEq

namespace Field

/-- The field that a part of a declaration states, as attributes, a name, a colon and a type. Of
several words in front of the colon the last is the name; the type loses its blanks, and commas at
the end are dropped. -/
def ofText? (text : Text) : Option Field := do
  let bare := Text.trim (Text.dropEndWhile (· == ',') (Text.trim (Attribute.strip text)))
  let (head, tail) ← Text.cutAt? ':' bare
  let name ← (Text.words head).getLast?
  let typeName := Text.squeeze tail
  if typeName = [] then none else some ⟨name, typeName⟩

end Field
end ShaderInterface
