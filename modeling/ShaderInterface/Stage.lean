import ShaderInterface.Text.LowerCase

set_option autoImplicit false

namespace ShaderInterface

inductive Stage where
  | vertex
  | fragment
  deriving DecidableEq

namespace Stage

def name : Stage → Text
  | vertex => "vertex"
  | fragment => "fragment"

/-- The text that starts the stage's entry point. -/
def entry : Stage → Text
  | vertex => "fn vs_main"
  | fragment => "fn fs_main"

/-- The words that name the fragment stage in a tag. -/
def fragmentWords : List Text := ["fragment", "frag", "fs"]

/-- The stage of a push constant with the given tag: vertex, unless a word of the tag names the
fragment stage in any case. -/
def ofTag (tag : Text) : Stage :=
  if (Text.lowerWords tag).any fragmentWords.contains then fragment else vertex

end Stage
end ShaderInterface
