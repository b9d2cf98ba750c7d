import ShaderInterface.Files.Tree

set_option autoImplicit false

/-!
What a command needs of the system that it runs on: a file system and a terminal. A session is a
system as a value, for which it can be said what a command does. It is an ideal one: lines are
always shown, a file that is put is put as a whole, calls go as deep and numbers are written as long
as they get, and every name and argument is a text of Unicode scalar values.
-/
namespace ShaderInterface

/-- A file system and a terminal. -/
class Host (m : Type → Type) where
  /-- Shows a line. -/
  print : Text → m Unit
  /-- Whether a path leads to something. -/
  isPresent : Path → m Bool
  /-- Whether a path leads to a directory. -/
  isDirectory : Path → m Bool
  /-- When what a path leads to was modified, as a number that orders as the times do. -/
  modified : Path → m (Except FileError Int)
  /-- The bytes of the file that a path leads to. -/
  read : Path → m (Except FileError ByteArray)
  /-- Puts a file where a path leads to. -/
  write : Path → ByteArray → m (Except FileError Unit)
  /-- Makes a directory at a path. -/
  makeDirectory : Path → m (Except FileError Unit)
  /-- The directory that a path leads to and all directories below it, in any order. -/
  walk : Path → m (List FileTree.Folder)

/-- A system as a value: its files, the current directory, the time, and the lines shown. -/
structure World where
  tree : FileTree
  current : Location
  now : Int
  shown : List Text

abbrev Session := StateM World

namespace Session

/-- Asks for something without changing the world. -/
def ask {α : Type} (question : World → α) : Session α := fun world => (question world, world)

def change (edit : World → Except FileError FileTree) : Session (Except FileError Unit) :=
  fun world =>
    match edit world with
    | .error error => (.error error, world)
    | .ok tree => (.ok (), { world with tree })

instance : Host Session where
  print line := fun world => ((), { world with shown := world.shown ++ [line] })
  isPresent path := ask fun world => world.tree.isPresent world.current path
  isDirectory path := ask fun world => world.tree.isDirectory world.current path
  modified path := ask fun world => world.tree.modified world.current path
  read path := ask fun world => world.tree.read world.current path
  write path content := change fun world =>
    world.tree.write world.now world.current path content
  makeDirectory path := change fun world =>
    world.tree.makeDirectory world.now world.current path
  walk path := ask fun world => world.tree.walk world.current path

end Session

namespace Host

variable {m : Type → Type} [Monad m] [Host m]

/-- Makes the directory whose parts are given last first, and those above it where absent. A
directory that is there already is fine. -/
def makeDirectoriesFrom (slashes : Nat) : List Text → m (Except FileError Unit)
  | [] => settle ⟨slashes, []⟩
  | part :: above => do
      let parent : Path := ⟨slashes, above.reverse⟩
      let refused ←
        if (slashes = 0 ∧ above = []) || (← isPresent parent) then pure (Except.ok ())
        else makeDirectoriesFrom slashes above
      match refused with
      | .ok () => settle ⟨slashes, (part :: above).reverse⟩
      | .error .present => settle ⟨slashes, (part :: above).reverse⟩
      | .error error => return .error error
where
  /-- Makes one directory, unless it is there. -/
  settle (path : Path) : m (Except FileError Unit) := do
    match ← makeDirectory path with
    | .ok () => return .ok ()
    | .error error => return if ← isDirectory path then .ok () else .error error

/-- Makes a directory and those above it where absent. -/
def makeDirectories (path : Path) : m (Except FileError Unit) :=
  makeDirectoriesFrom path.slashes path.parts.reverse

end Host
end ShaderInterface
