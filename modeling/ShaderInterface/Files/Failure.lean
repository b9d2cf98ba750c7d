import ShaderInterface.Text.Quoted

set_option autoImplicit false

namespace ShaderInterface

inductive FileError where
  | absent
  | present
  | notDirectory
  | isDirectory
  | tooManyLinks
  | unnameable
  | other (code : Nat) (description : Text)
  deriving DecidableEq

namespace FileError

def code : FileError → Nat
  | absent => 2
  | present => 17
  | notDirectory => 20
  | isDirectory => 21
  | tooManyLinks => 40
  | unnameable => 22
  | other code _ => code

def description : FileError → Text
  | absent => "No such file or directory"
  | present => "File exists"
  | notDirectory => "Not a directory"
  | isDirectory => "Is a directory"
  | tooManyLinks => "Too many levels of symbolic links"
  | unnameable => "Invalid argument"
  | other _ description => description

def message (e : FileError) (path : Text) : Text :=
  "[Errno " ++ Text.decimal e.code ++ "] " ++ e.description ++ ": " ++ Text.quoted path

end FileError
end ShaderInterface
