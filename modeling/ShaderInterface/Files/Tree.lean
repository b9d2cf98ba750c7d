import ShaderInterface.Files.Failure
import ShaderInterface.Files.Path
import ShaderInterface.Table

set_option autoImplicit false

/-!
A file tree as a value: files, directories and symbolic links by location, with modification times.
A location is the list of names from the root, which is a directory; every other entry lies in a
directory of the tree. A path is looked up part by part, and links are followed on the way.
-/
namespace ShaderInterface

/-- The names from the root to an entry, without links or parent steps. -/
abbrev Location := List Text

/-- What is at a location. -/
inductive Entry where
  | file (content : ByteArray) (modified : Int)
  | directory (modified : Int)
  | link (target : Text)

namespace Entry

def isDirectory : Entry → Bool
  | directory _ => true
  | _ => false

/-- When the entry was modified. A link has no time of its own here. -/
def modified? : Entry → Option Int
  | file _ time => some time
  | directory time => some time
  | link _ => none

def touch (time : Int) : Entry → Entry
  | file content _ => file content time
  | directory _ => directory time
  | link target => link target

end Entry

/-- The entries of a file system apart from the root directory. -/
abbrev FileTree := Table Location Entry

namespace FileTree

def entry? (tree : FileTree) (place : Location) : Option Entry :=
  if place = [] then some (.directory 0) else tree.find? place

/-- What a look-up is for: the entry at the path itself, what the path leads to, or a file to be
written where it leads. -/
inductive Purpose where
  | entry
  | status
  | file
  deriving DecidableEq

/-- Where a look-up stands: at its end, or at a link in `place` with the parts that follow it. -/
inductive Stop where
  | at (place : Location)
  | link (place : Location) (target : Text) (rest : List Text)

/-- The parts of a link's target. A slash at its end asks for a directory and becomes an empty part. -/
def targetParts (target : Text) : List Text :=
  let parts := (target.splitOn '/').filter fun part => !part.isEmpty
  if target.getLast? = some '/' then parts ++ [[]] else parts

/-- Follows the parts from `place` to the end or to the first link. The last part may be absent. It
may be a link, if the entry itself is looked for; no file is written where a directory is asked
for. -/
def descend (tree : FileTree) (purpose : Purpose) (place : Location) :
    List Text → Except FileError Stop
  | [] => .ok (.at place)
  | part :: rest =>
      match tree.entry? place with
      | none => .error .absent
      | some (.file _ _) => .error .notDirectory
      | some (.link _) => .error .notDirectory
      | some (.directory _) =>
          if part = [] ∨ part = ['.'] then descend tree purpose place rest
          else if part = ['.', '.'] then descend tree purpose place.dropLast rest
          else if purpose = .file ∧ rest = [[]] then .error .isDirectory
          else
            match tree.entry? (place ++ [part]) with
            | some (.link target) =>
                if rest = [] ∧ purpose = .entry then .ok (.at (place ++ [part]))
                else .ok (.link place target rest)
            | some _ => descend tree purpose (place ++ [part]) rest
            | none => if rest = [] then .ok (.at (place ++ [part])) else .error .absent

/-- The location of the parts seen from `place`, with at most `links` links followed. -/
def locateFrom (tree : FileTree) (purpose : Purpose) :
    (links : Nat) → Location → List Text → Except FileError Location
  | links, place, parts =>
      match tree.descend purpose place parts with
      | .error error => .error error
      | .ok (.at place) => .ok place
      | .ok (.link place target rest) =>
          match links with
          | 0 => .error .tooManyLinks
          | links + 1 =>
              locateFrom tree purpose links (if target.head? = some '/' then [] else place)
                (targetParts target ++ rest)

/-- How many links a look-up may pass. -/
def linkLimit : Nat := 40

/-- The location of a path seen from `current`. Nothing need be there, but its directory is. -/
def locate (tree : FileTree) (purpose : Purpose) (current : Location) (path : Path) :
    Except FileError Location :=
  if path.isNameable then
    tree.locateFrom purpose linkLimit (if path.slashes = 0 then current else []) path.parts
  else .error .unnameable

def status (tree : FileTree) (current : Location) (path : Path) : Except FileError Entry :=
  (tree.locate .status current path).bind fun place =>
    match tree.entry? place with
    | some entry => .ok entry
    | none => .error .absent

def isPresent (tree : FileTree) (current : Location) (path : Path) : Bool :=
  (tree.status current path).toBool

def isDirectory (tree : FileTree) (current : Location) (path : Path) : Bool :=
  match tree.status current path with
  | .ok entry => entry.isDirectory
  | .error _ => false

def modified (tree : FileTree) (current : Location) (path : Path) : Except FileError Int :=
  (tree.status current path).bind fun entry =>
    match entry.modified? with
    | some time => .ok time
    | none => .error .absent

def read (tree : FileTree) (current : Location) (path : Path) : Except FileError ByteArray :=
  (tree.status current path).bind fun entry =>
    match entry with
    | .file content _ => .ok content
    | .directory _ => .error .isDirectory
    | .link _ => .error .absent

/-- A new entry at a location, which is a change of its directory. -/
def create (tree : FileTree) (now : Int) (place : Location) (entry : Entry) : FileTree :=
  (tree.modify place.dropLast (Entry.touch now)).insert place entry

/-- The tree with a file of the given content where the path leads to. -/
def write (tree : FileTree) (now : Int) (current : Location) (path : Path) (content : ByteArray) :
    Except FileError FileTree :=
  (tree.locate .file current path).bind fun place =>
    match tree.entry? place with
    | some (.directory _) => .error .isDirectory
    | some _ => .ok (tree.insert place (.file content now))
    | none => .ok (tree.create now place (.file content now))

/-- The tree with a new entry at the path itself. -/
def add (tree : FileTree) (now : Int) (current : Location) (path : Path) (entry : Entry) :
    Except FileError FileTree :=
  (tree.locate .entry current path).bind fun place =>
    match tree.entry? place with
    | some _ => .error .present
    | none => .ok (tree.create now place entry)

/-- The tree with a new link. A target has at least one character. -/
def link (tree : FileTree) (now : Int) (current : Location) (path : Path) (target : Text) :
    Except FileError FileTree :=
  if target = [] then .error .absent else tree.add now current path (.link target)

def makeDirectory (tree : FileTree) (now : Int) (current : Location) (path : Path) :
    Except FileError FileTree :=
  tree.add now current path (.directory now)

def touch (tree : FileTree) (time : Int) (current : Location) (path : Path) :
    Except FileError FileTree :=
  (tree.locate .status current path).bind fun place =>
    match tree.entry? place with
    | some _ => .ok (tree.modify place (Entry.touch time))
    | none => .error .absent

def remove (tree : FileTree) (now : Int) (current : Location) (path : Path) :
    Except FileError FileTree :=
  (tree.locate .entry current path).bind fun place =>
    match tree.entry? place with
    | some (.directory _) => .error .isDirectory
    | some _ => .ok ((tree.erase place).modify place.dropLast (Entry.touch now))
    | none => .error .absent

/-- A directory that a walk comes to: how it is written, and the names in it that do not lead to
directories. -/
structure Folder where
  text : Text
  files : List Text
  deriving DecidableEq

/-- How the directory at `steps` below the one written by `top` is written. -/
def writtenBelow (top : Text) (steps : List Text) : Text :=
  if steps = [] then top
  else if top.getLast? = some '/' then top ++ List.intercalate ['/'] steps
  else top ++ '/' :: List.intercalate ['/'] steps

def names (tree : FileTree) (place : Location) : List Text :=
  tree.keys.filterMap fun other =>
    if other ≠ [] ∧ other.dropLast = place then other.getLast? else none

/-- The directory at `steps` below `top`, which is at `place`. -/
def folder (tree : FileTree) (top : Text) (place : Location) (steps : List Text) : Folder :=
  let here := place ++ steps
  ⟨writtenBelow top steps,
    (tree.names here).filter fun name => !tree.isDirectory here ⟨0, [name]⟩⟩

/-- The directories below `place`, itself included, as steps from there. Links to directories are
not entered. -/
def stepsBelow (tree : FileTree) (place : Location) : List (List Text) :=
  [] :: tree.entries.filterMap fun entry =>
    if entry.2.isDirectory ∧ place.isPrefixOf entry.1 ∧ entry.1 ≠ place then
      some (entry.1.drop place.length)
    else none

/-- The directory that a path leads to and all directories below it. -/
def walk (tree : FileTree) (current : Location) (path : Path) : List Folder :=
  match tree.locate .status current path with
  | .error _ => []
  | .ok place =>
      if (tree.entry? place).any Entry.isDirectory then
        (tree.stepsBelow place).map (tree.folder path.text place)
      else []

end FileTree
end ShaderInterface
