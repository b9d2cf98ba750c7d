import ShaderInterface.Text.Basic

set_option autoImplicit false

namespace ShaderInterface

/-- A path: relative without leading slashes, else from a root. -/
structure Path where
  slashes : Nat
  parts : List Text
  deriving DecidableEq

namespace Path

def partsOf (text : Text) : List Text :=
  (text.splitOn '/').filter fun part => !part.isEmpty && part != ['.']

def ofText (text : Text) : Path :=
  let leading := (text.takeWhile (· == '/')).length
  ⟨if leading ≤ 2 then leading else 1, partsOf text⟩

/-- How the path is written. The empty relative path is a dot. -/
def text (p : Path) : Text :=
  if p.slashes = 0 ∧ p.parts = [] then ['.']
  else List.replicate p.slashes '/' ++ List.intercalate ['/'] p.parts

/-- `q` seen from `p`. A path from a root is the same from everywhere. -/
def join (p q : Path) : Path :=
  if q.slashes = 0 then ⟨p.slashes, p.parts ++ q.parts⟩ else q

/-- The path written by `name`, seen from `p`. -/
def child (p : Path) (name : Text) : Path := p.join (ofText name)

def parent (p : Path) : Path := ⟨p.slashes, p.parts.dropLast⟩

/-- Whether the system can be asked for the path. A null character ends the names that it takes. -/
def isNameable (p : Path) : Bool := p.parts.all fun part => !part.contains '\x00'

def name (p : Path) : Text := p.parts.getLast?.getD []

end Path
end ShaderInterface
