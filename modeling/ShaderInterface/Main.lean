import ShaderInterface.Command.Run

set_option autoImplicit false

namespace ShaderInterface.Main

def fileError (error : IO.Error) : FileError :=
  match error with
  | .noFileOrDirectory .. => .absent
  | .alreadyExists .. => .present
  | .inappropriateType _ code details => ofCode code details
  | error => .other 0 (toString error).toList
where
  /-- A refusal by the system's number for it. -/
  ofCode (code : UInt32) (details : String) : FileError :=
    if code = 20 then .notDirectory
    else if code = 21 then .isDirectory
    else .other code.toNat details.toList

/-- Carries out a request that concerns a path, and gives the reason when it fails. -/
def attempt {α : Type} (path : Path) (request : String → IO α) : IO (Except FileError α) := do
  if path.isNameable then
    try
      return .ok (← request (String.ofList path.text))
    catch error =>
      return .error (fileError error)
  else return .error .unnameable

def granted (request : IO Bool) : IO Bool := do
  try
    request
  catch _ =>
    return false

/-- A point in time in seconds, rounded to a double: times that are closer than its precision are
the same. -/
def seconds (time : IO.FS.SystemTime) : Float :=
  Float.ofInt time.sec + 1e-9 * Float.ofNat time.nsec.toNat

/-- The place of a double among all of them. The bits behind the sign are ordered as the magnitudes
are, so that the place of a negative one is the negative of its magnitude's. -/
def rank (number : Float) : Int :=
  let bits : Int := number.toBits.toNat
  let sign : Int := 0x8000000000000000
  if bits < sign then bits else sign - bits

/-- The folders at and below a place that is written in a given way. Places that cannot be listed
are passed over. -/
partial def folders (place : IO.FS.DirEntry) (written : Text) : IO (List FileTree.Folder) := do
  let entries ← try place.path.readDir catch _ => return []
  let mut files := []
  let mut below := []
  for entry in entries do
    let name := entry.fileName.toList
    if ← granted entry.path.isDir then
      let linked ← granted do
        return (← entry.path.symlinkMetadata).type == .symlink
      unless linked do
        below := below ++ (← folders entry (FileTree.writtenBelow written [name]))
    else
      files := name :: files
  return ⟨written, files⟩ :: below

instance : Host IO where
  print line := IO.println (String.ofList line)
  isPresent path := return (← attempt path fun name => do
    let here ← IO.currentDir
    (here / name).pathExists).toOption.getD false
  isDirectory path := return (← attempt path fun name => do
    let here ← IO.currentDir
    (here / name).isDir).toOption.getD false
  modified path := attempt path fun name => do
    let here ← IO.currentDir
    return rank (seconds (← (here / name).metadata).modified)
  read path := attempt path fun name => IO.FS.readBinFile name
  write path content := attempt path fun name => IO.FS.writeBinFile name content
  makeDirectory path := attempt path fun name => IO.FS.createDir name
  walk path := do
    folders ⟨← IO.currentDir, String.ofList path.text⟩ path.text

def explain : Command.Failure → Text
  | .refused .helpAsked => "options: --shaders-dir --subdir --output --force --dump-tables " ++
      "--preserve-field-order"
  | .refused .misused => "unusable arguments"
  | .file error path => error.message path.text
  | .notText path => "not UTF-8: " ++ path.text
  | .shader error => error.message
  | .unknownType error => "unknown type: " ++ error.name
  | .withoutShaders _ => "no directory of shaders"

def failureStatus : Command.Failure → Nat
  | .refused refusal => refusal.status
  | _ => 1

end ShaderInterface.Main

open ShaderInterface in
def main (arguments : List String) : IO UInt32 := do
  let root := (Path.ofText (← IO.appDir).toString.toList).parent
  let result : Command.Result Nat ← Command.run root (arguments.map String.toList)
  match result with
  | .ok status => return status.toUInt32
  | .error failure =>
      IO.eprintln (String.ofList (Main.explain failure))
      return (Main.failureStatus failure).toUInt32
