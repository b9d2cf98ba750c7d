import ShaderInterface.Command.Dump
import ShaderInterface.Command.Options
import ShaderInterface.Files.Host
import ShaderInterface.Header
import ShaderInterface.Text.Encoding

set_option autoImplicit false

namespace ShaderInterface.Command

/-- Why a run ends without an exit status of its own. -/
inductive Failure where
  | refused (refusal : Refusal)
  | file (error : FileError) (path : Path)
  | notText (path : Path)
  | shader (error : ShaderError)
  | unknownType (error : UnknownType)
  | withoutShaders (subdirectory : Text)
  deriving DecidableEq

abbrev Result (α : Type) := Except Failure α

variable {m : Type → Type} [Monad m] [Host m]

def printAll : List Text → m Unit
  | [] => pure ()
  | line :: rest => do
      Host.print line
      printAll rest

def readText (path : Path) : m (Result Text) := do
  match ← Host.read path with
  | .error error => return .error (.file error path)
  | .ok bytes =>
      match Text.ofBytes? bytes with
      | none => return .error (.notText path)
      | some text => return .ok text

/-- The interface of a source, its warnings shown. -/
def readSource (settings : Settings) (sourceName source : Text) : m (Result Interface) := do
  let outcome := Interface.ofSource settings sourceName source
  printAll (outcome.notices.map Notice.line)
  return outcome.result.mapError .shader

/-- The interface of the shader in a file, which warnings call by the given name. -/
def readShader (settings : Settings) (sourceName : Text) (path : Path) : m (Result Interface) := do
  match ← readText path with
  | .error failure => return .error failure
  | .ok source => readSource settings sourceName source

/-- The interface of a shader whose stages are in two files. -/
def readShaderPair (settings : Settings) (sourceName : Text) (vertex fragment : Path) :
    m (Result Interface) := do
  match ← readText vertex with
  | .error failure => return .error failure
  | .ok vertexSource =>
      match ← readText fragment with
      | .error failure => return .error failure
      | .ok fragmentSource =>
          readSource settings sourceName (vertexSource ++ '\n' :: fragmentSource)

/-- A shader file, how messages write its path, and the name of its shader. -/
structure Shader where
  path : Path
  written : Text
  name : Text
  deriving DecidableEq

def shaderPart (settings : Settings) (dump : Bool) (shader : Shader) : m (Result Text) := do
  match ← readShader settings shader.written shader.path with
  | .error failure =>
      match failure with
      | .shader error =>
          if error.isReported then
            Host.print (Colour.red.paint ("Parser error in " ++ shader.written))
      | _ => pure ()
      return .error failure
  | .ok interface =>
      if dump then printAll (Dump.lines shader.name interface)
      return (Header.shaderPart settings.primitives shader.name interface.toDeclarations).mapError
        .unknownType

/-- The parts of the header for the shaders in order, up to the first that fails. -/
def shaderParts (settings : Settings) (dump : Bool) : List Shader → m (Result Text)
  | [] => return .ok []
  | shader :: rest => do
      match ← shaderPart settings dump shader with
      | .error failure => return .error failure
      | .ok part => return (← shaderParts settings dump rest).map (part ++ ·)

def header (settings : Settings) (dump : Bool) (shaders : List Shader) : m (Result Text) := do
  return (← shaderParts settings dump shaders).map (Header.preamble ++ ·)

/-- The name of the shader in a file of this name. If there is none, that is shown. -/
def nameOfFile (fileName : Text) : m (Option Text) := do
  match Header.shaderName? fileName with
  | some name => return some name
  | none =>
      Host.print "Expected filename of the form \x7bname\x7d.wgsl"
      Host.print ("\tNot reflecting file: " ++ fileName)
      return none

/-- Whether `source` is newer than `target` or `target` is absent. -/
def isNewer (source target : Path) : m (Result Bool) := do
  if ← Host.isPresent target then
    match ← Host.modified source with
    | .error error => return .error (.file error source)
    | .ok sourceTime =>
        match ← Host.modified target with
        | .error error => return .error (.file error target)
        | .ok targetTime => return .ok (decide (targetTime < sourceTime))
  else return .ok true

/-- What a walk finds: the shaders, and whether a file is newer than the header. -/
structure Finding where
  shaders : List Shader
  outdated : Bool
  deriving DecidableEq

namespace Finding

def nothing : Finding := ⟨[], false⟩

def append (a b : Finding) : Finding := ⟨a.shaders ++ b.shaders, a.outdated || b.outdated⟩

end Finding

def findFiles (headerPath folder : Path) : List Text → m (Result Finding)
  | [] => return .ok .nothing
  | fileName :: rest => do
      let source := folder.child fileName
      match ← isNewer source headerPath with
      | .error failure => return .error failure
      | .ok newer =>
          let name? ← nameOfFile fileName
          let shader? := name?.map fun name => Shader.mk source source.text name
          return (← findFiles headerPath folder rest).map (Finding.append ⟨shader?.toList, newer⟩)

/-- The last name in a directory as a walk writes it. -/
def folderName (text : Text) : Text := (text.reverse.takeWhile (· != '/')).reverse

/-- What the files in folders are. Folders for generated files are passed over. -/
def findFolders (headerPath : Path) : List FileTree.Folder → m (Result Finding)
  | [] => return .ok .nothing
  | folder :: rest => do
      if folderName folder.text = ("gen" : Text) then findFolders headerPath rest
      else
        match ← findFiles headerPath (Path.ofText folder.text) (folder.files.mergeSort Text.atMost) with
        | .error failure => return .error failure
        | .ok here => return (← findFolders headerPath rest).map here.append

/-- The shaders below a directory, folder by folder and name by name. -/
def find (headerPath directory : Path) : m (Result Finding) := do
  let folders ← Host.walk directory
  findFolders headerPath (folders.mergeSort fun a b => Text.atMost a.text b.text)

def Options.settings (options : Options) : Settings :=
  ⟨Primitive.known, if options.keepFieldOrder then .declared else .reversed⟩

def regenerate (options : Options) (headerPath : Path) (shaders : List Shader) :
    m (Result Nat) := do
  match ← header options.settings options.dumpTables shaders with
  | .error (.shader error) =>
      if error.isReported then
        Host.print (Colour.red.paint error.message)
        return .ok 1
      else return .error (.shader error)
  | .error (.file error path) =>
      Host.print (Colour.red.paint ("Could not read shader: " ++ error.message path.text))
      return .ok 1
  | .error failure => return .error failure
  | .ok text =>
      match ← Host.write headerPath (Text.toBytes text) with
      | .error error => return .error (.file error headerPath)
      | .ok () =>
          Host.print ("reflect_shaders.py: wrote " ++ headerPath.text)
          return .ok 0

/-- Brings the header up to date with the shaders below a directory. -/
def update (options : Options) (headerPath directory : Path) : m (Result Nat) := do
  match ← Host.makeDirectories headerPath.parent with
  | .error error => return .error (.file error headerPath.parent)
  | .ok () =>
      match ← find headerPath directory with
      | .error failure => return .error failure
      | .ok finding =>
          if finding.shaders = [] then
            Host.print (Colour.yellow.paint
              ("Warning: no .wgsl shaders found in " ++ directory.text))
          if finding.outdated || options.force then
            regenerate options headerPath finding.shaders
          else
            Host.print ("reflect_shaders.py: Nothing to be done for " ++ headerPath.name)
            return .ok 0

/-- The directory with the shaders of all subdirectories, unless it was taken away. -/
def Options.shaders? (options : Options) (root : Path) : Option Path :=
  match options.shaders with
  | .ofProject => some (root.child "shaders")
  | .at path => some path
  | .nowhere => none

/-- The directory that is searched, below the one with all shaders. -/
def Options.directory (options : Options) (shaders : Path) : Path :=
  if options.subdirectory = [] then shaders else shaders.child options.subdirectory

def Options.header (options : Options) (root : Path) : Path :=
  options.output?.getD ((root.child "gen").child
    (if options.subdirectory = [] then "shader_reflection.h"
     else options.subdirectory ++ "_shader_reflection.h"))

def missing (options : Options) (shaders : Path) : Text :=
  Colour.red.paint
    (if options.subdirectory = [] then
      "Error: Could not find shaders directory at '" ++ shaders.text ++ "'"
    else
      "Error: subdirectory '" ++ options.subdirectory ++ "' does not exist in '" ++
        shaders.text ++ "'")

/-- Carries out options for the project in `root`. -/
def carryOut (options : Options) (root : Path) : m (Result Nat) := do
  match options.shaders? root with
  | none => return .error (.withoutShaders options.subdirectory)
  | some shaders =>
      if ← Host.isDirectory (options.directory shaders) then
        update options (options.header root) (options.directory shaders)
      else
        Host.print (missing options shaders)
        return .ok 1

/-- Carries out a command line for the project in `root`, and gives the exit status. -/
def run (root : Path) (arguments : List Text) : m (Result Nat) :=
  match Options.ofArguments arguments with
  | .error refusal => return .error (.refused refusal)
  | .ok options => carryOut options root

end ShaderInterface.Command
