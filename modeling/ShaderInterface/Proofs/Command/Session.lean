import ShaderInterface.Proofs.Command.Listing
import ShaderInterface.Proofs.Fallible

set_option autoImplicit false

namespace ShaderInterface

open Command (Result Shader Finding listing pathOf filesOf)

namespace World

def text (world : World) (path : Path) : Result Text :=
  match world.tree.read world.current path with
  | .error error => .error (.file error path)
  | .ok bytes =>
      match Text.ofBytes? bytes with
      | none => .error (.notText path)
      | some text => .ok text

def canRead (world : World) (path : Path) : Bool := (world.tree.read world.current path).toBool

def interface (world : World) (settings : Settings) (shader : Shader) : Result Interface :=
  (world.text shader.path).bind fun source =>
    (Interface.ofSource settings shader.written source).result.mapError .shader

def part (world : World) (settings : Settings) (shader : Shader) : Result Text :=
  (world.interface settings shader).bind fun interface =>
    (Header.shaderPart settings.primitives shader.name interface.toDeclarations).mapError
      .unknownType

def header (world : World) (settings : Settings) (shaders : List Shader) : Result Text :=
  (shaders.mapM (world.part settings)).map fun parts => Header.preamble ++ parts.flatten

def isNewer (world : World) (source target : Path) : Result Bool :=
  if world.tree.isPresent world.current target then
    match world.tree.modified world.current source with
    | .error error => .error (.file error source)
    | .ok sourceTime =>
        match world.tree.modified world.current target with
        | .error error => .error (.file error target)
        | .ok targetTime => .ok (decide (targetTime < sourceTime))
  else .ok true

end World

namespace Command

def shaderOf? (file : Text × Text) : Option Shader :=
  (Header.shaderName? file.2).map fun name => ⟨pathOf file, (pathOf file).text, name⟩

end Command

namespace World

def shaders (world : World) (top : Path) : List Shader :=
  (listing world.tree world.current top).filterMap Command.shaderOf?

def finding (world : World) (headerPath : Path) : List (Text × Text) → Result Finding
  | [] => .ok .nothing
  | file :: rest =>
      (world.isNewer (pathOf file) headerPath).bind fun newer =>
        (world.finding headerPath rest).map
          (Finding.append ⟨(Command.shaderOf? file).toList, newer⟩)

end World

/-- What is found where a file can be read. -/
theorem World.canRead_iff {world : World} {path : Path} :
    world.canRead path = true ↔ ∃ last content time,
      world.tree.locate .status world.current path = .ok last ∧
        world.tree.look last = some (.file content time) := by
  have answer : world.canRead path = true ↔
      ∃ content, world.tree.read world.current path = .ok content := by
    rw [canRead]
    cases world.tree.read world.current path <;> simp [Except.toBool]
  rw [answer]
  simp only [FileTree.read_eq_ok_iff, FileTree.status_eq_file_iff]
  constructor
  · rintro ⟨content, time, last, both⟩
    exact ⟨last, content, time, both⟩
  · rintro ⟨last, content, time, both⟩
    exact ⟨content, time, last, both⟩

theorem World.text_of_read {world : World} {path : Path} {source : Text}
    (stored : world.tree.read world.current path = .ok (Text.toBytes source)) :
    world.text path = .ok (Text.unifyLineEnds source) := by
  simp only [World.text, stored, Text.ofBytes?_toBytes]

theorem World.interface_of_read {world : World} {settings : Settings} {shader : Shader}
    {source : Text} (stored : world.tree.read world.current shader.path = .ok (Text.toBytes source)) :
    world.interface settings shader = (Interface.ofSource settings shader.written
      (Text.unifyLineEnds source)).result.mapError .shader := by
  rw [World.interface, World.text_of_read stored]
  rfl

namespace Session

variable {α β : Type} {action : Session α} {world : World} {answer : α}

theorem bind_apply (first : Session α) (next : α → Session β) (world : World) :
    (first >>= next) world = next (first world).1 (first world).2 := rfl

theorem pure_apply (answer : α) (world : World) :
    (pure answer : Session α) world = (answer, world) := rfl

/-- In a world like this, whatever was shown before, the action gives the answer and changes
nothing. It may show more. -/
def Answers (action : Session α) (world : World) (answer : α) : Prop :=
  ∀ before, ∃ shown, before <+: shown ∧
    action { world with shown := before } = (answer, { world with shown })

theorem Answers.apply (answers : Answers action world answer) :
    ∃ shown, action world = (answer, { world with shown }) := by
  obtain ⟨shown, -, answered⟩ := answers world.shown
  exact ⟨shown, answered⟩

theorem Answers.fst (answers : Answers action world answer) : (action world).1 = answer := by
  obtain ⟨_, answered⟩ := answers.apply
  rw [answered]

theorem Answers.pure (answer : α) (world : World) :
    Answers (Pure.pure answer : Session α) world answer :=
  fun before => ⟨before, List.prefix_rfl, rfl⟩

theorem Answers.bind {next : α → Session β} {final : β} (answers : Answers action world answer)
    (onward : Answers (next answer) world final) : Answers (action >>= next) world final := by
  intro before
  obtain ⟨middle, more, first⟩ := answers before
  obtain ⟨shown, evenMore, second⟩ := onward middle
  refine ⟨shown, more.trans evenMore, ?_⟩
  rw [bind_apply, first]
  exact second

theorem answers_print (line : Text) (world : World) :
    Answers (Host.print line : Session Unit) world () :=
  fun before => ⟨before ++ [line], List.prefix_append before [line], rfl⟩

theorem answers_printAll (lines : List Text) (world : World) :
    Answers (Command.printAll lines : Session Unit) world () := by
  induction lines with
  | nil => exact .pure () world
  | cons line rest ih => exact (answers_print line world).bind ih

theorem answers_read (path : Path) (world : World) :
    Answers (Host.read path : Session _) world (world.tree.read world.current path) :=
  fun before => ⟨before, List.prefix_rfl, rfl⟩

theorem answers_isPresent (path : Path) (world : World) :
    Answers (Host.isPresent path : Session _) world (world.tree.isPresent world.current path) :=
  fun before => ⟨before, List.prefix_rfl, rfl⟩

theorem answers_modified (path : Path) (world : World) :
    Answers (Host.modified path : Session _) world (world.tree.modified world.current path) :=
  fun before => ⟨before, List.prefix_rfl, rfl⟩

theorem answers_walk (path : Path) (world : World) :
    Answers (Host.walk path : Session _) world (world.tree.walk world.current path) :=
  fun before => ⟨before, List.prefix_rfl, rfl⟩

end Session

namespace Command

open Session

variable {world : World} {settings : Settings} {dump : Bool} {headerPath top : Path}

theorem answers_readText (path : Path) (world : World) :
    Answers (readText path : Session _) world (world.text path) := by
  apply (answers_read path world).bind
  rw [World.text]
  cases world.tree.read world.current path with
  | error error => exact .pure _ world
  | ok bytes => cases decoded : Text.ofBytes? bytes <;> simp only [decoded] <;> exact .pure _ world

theorem answers_readSource (settings : Settings) (sourceName source : Text) (world : World) :
    Answers (readSource settings sourceName source : Session _) world
      ((Interface.ofSource settings sourceName source).result.mapError .shader) :=
  (answers_printAll _ world).bind (.pure _ world)

theorem answers_readShader (settings : Settings) (shader : Shader) (world : World) :
    Answers (readShader settings shader.written shader.path : Session _) world
      (world.interface settings shader) := by
  apply (answers_readText shader.path world).bind
  rw [World.interface]
  cases world.text shader.path with
  | error failure => exact .pure _ world
  | ok source => exact answers_readSource settings shader.written source world

theorem answers_shaderPart (settings : Settings) (dump : Bool) (shader : Shader) (world : World) :
    Answers (shaderPart settings dump shader : Session _) world (world.part settings shader) := by
  apply (answers_readShader settings shader world).bind
  rw [World.part]
  cases world.interface settings shader with
  | error failure =>
    cases failure with
    | shader error =>
      by_cases reported : error.isReported = true
      · simp only [if_pos reported]
        exact (answers_print _ world).bind (.pure _ world)
      · simp only [if_neg reported]
        exact (Answers.pure _ world).bind (.pure _ world)
    | refused | file | notText | unknownType | withoutShaders =>
      exact (Answers.pure _ world).bind (.pure _ world)
  | ok interface =>
    cases dump with
    | true => exact (answers_printAll _ world).bind (.pure _ world)
    | false => exact (Answers.pure _ world).bind (.pure _ world)

theorem answers_shaderParts (settings : Settings) (dump : Bool) (shaders : List Shader)
    (world : World) :
    Answers (shaderParts settings dump shaders : Session _) world
      ((shaders.mapM (world.part settings)).map List.flatten) := by
  induction shaders with
  | nil => exact .pure _ world
  | cons shader rest ih =>
    apply (answers_shaderPart settings dump shader world).bind
    rw [List.mapM_cons]
    cases world.part settings shader with
    | error failure => exact .pure _ world
    | ok part =>
      refine ih.bind ?_
      cases rest.mapM (world.part settings) with
      | error failure => exact .pure _ world
      | ok parts => exact .pure _ world

theorem answers_header (settings : Settings) (dump : Bool) (shaders : List Shader)
    (world : World) :
    Answers (header settings dump shaders : Session _) world (world.header settings shaders) := by
  apply (answers_shaderParts settings dump shaders world).bind
  rw [World.header]
  cases shaders.mapM (world.part settings) with
  | error failure => exact .pure _ world
  | ok parts => exact .pure _ world

theorem answers_nameOfFile (fileName : Text) (world : World) :
    Answers (nameOfFile fileName : Session _) world (Header.shaderName? fileName) := by
  rw [nameOfFile]
  cases Header.shaderName? fileName with
  | none => exact (answers_print _ world).bind ((answers_print _ world).bind (.pure _ world))
  | some name => exact .pure _ world

theorem answers_isNewer (source target : Path) (world : World) :
    Answers (isNewer source target : Session _) world (world.isNewer source target) := by
  apply (answers_isPresent target world).bind
  rw [World.isNewer]
  split
  · apply (answers_modified source world).bind
    cases world.tree.modified world.current source with
    | error error => exact .pure _ world
    | ok sourceTime =>
      apply (answers_modified target world).bind
      cases world.tree.modified world.current target with
      | error error => exact .pure _ world
      | ok targetTime => exact .pure _ world
  · exact .pure _ world

theorem answers_findFiles (headerPath : Path) (folder : Text) (files : List Text)
    (world : World) :
    Answers (findFiles headerPath (Path.ofText folder) files : Session _) world
      (world.finding headerPath (files.map fun name => (folder, name))) := by
  induction files with
  | nil => exact .pure _ world
  | cons fileName rest ih =>
    apply (answers_isNewer _ _ world).bind
    rw [List.map_cons, World.finding, pathOf]
    cases world.isNewer ((Path.ofText folder).child fileName) headerPath with
    | error failure => exact .pure _ world
    | ok newer => exact (answers_nameOfFile fileName world).bind (ih.bind (.pure _ world))

theorem finding_shown (headerPath : Path) (world : World) (shown : List Text)
    (files : List (Text × Text)) :
    World.finding { world with shown } headerPath files = world.finding headerPath files := by
  induction files with
  | nil => rfl
  | cons file rest ih =>
    rw [World.finding, World.finding, ih]
    rfl

theorem finding_append (headerPath : Path) (world : World) (first second : List (Text × Text)) :
    world.finding headerPath (first ++ second) =
      (world.finding headerPath first).bind fun here =>
        (world.finding headerPath second).map here.append := by
  induction first with
  | nil =>
    rw [List.nil_append, World.finding]
    cases world.finding headerPath second <;> rfl
  | cons file rest ih =>
    rw [List.cons_append, World.finding, World.finding, ih]
    cases world.isNewer (pathOf file) headerPath with
    | error failure => rfl
    | ok newer =>
      cases world.finding headerPath rest with
      | error failure => rfl
      | ok here =>
        cases world.finding headerPath second with
        | error failure => rfl
        | ok there => simp [Except.bind, Except.map, Finding.append, Bool.or_assoc]

theorem answers_findFolders (headerPath : Path) (folders : List FileTree.Folder) (world : World) :
    Answers (findFolders headerPath folders : Session _) world
      (world.finding headerPath ((folders.filter fun folder =>
        folderName folder.text != ("gen" : Text)).flatMap filesOf)) := by
  induction folders with
  | nil => exact .pure _ world
  | cons folder rest ih =>
    rw [findFolders]
    by_cases generated : folderName folder.text = ("gen" : Text)
    · rw [if_pos generated, List.filter_cons_of_neg (by simpa using generated)]
      exact ih
    · rw [if_neg generated, List.filter_cons_of_pos (by simpa using generated), List.flatMap_cons,
        finding_append]
      apply (answers_findFiles headerPath folder.text _ world).bind
      rw [filesOf]
      cases world.finding headerPath _ with
      | error failure => exact .pure _ world
      | ok here => exact ih.bind (.pure _ world)

theorem answers_find (headerPath top : Path) (world : World) :
    Answers (find headerPath top : Session _) world
      (world.finding headerPath (listing world.tree world.current top)) :=
  (answers_walk top world).bind (answers_findFolders headerPath _ world)

/-- A search gives the shaders among the files, and it tells that the header is not outdated only
when no file is newer. -/
theorem finding_ok {files : List (Text × Text)} {finding : Finding}
    (success : world.finding headerPath files = .ok finding) :
    finding.shaders = files.filterMap shaderOf? ∧ (finding.outdated = false →
      ∀ file ∈ files, world.isNewer (pathOf file) headerPath = .ok false) := by
  induction files generalizing finding with
  | nil =>
    cases success
    exact ⟨rfl, by simp⟩
  | cons file rest ih =>
    obtain ⟨newer, here, joined⟩ := Fallible.bind_eq_ok_iff.1 success
    obtain ⟨there, found, rfl⟩ := Fallible.map_eq_ok_iff.1 joined
    obtain ⟨shaders, ages⟩ := ih found
    constructor
    · rw [Finding.append, shaders, List.filterMap_cons]
      cases shaderOf? file <;> rfl
    · intro current
      obtain ⟨old, current⟩ := Bool.or_eq_false_iff.1 current
      obtain rfl : newer = false := old
      exact List.forall_mem_cons.2 ⟨here, ages current⟩

/-- A header is made when the part of each shader is. -/
theorem header_ok {shaders : List Shader} {text : Text}
    (success : world.header settings shaders = .ok text) :
    ∀ shader ∈ shaders, ∃ part, world.part settings shader = .ok part := by
  obtain ⟨parts, success, -⟩ := Fallible.map_eq_ok_iff.1 success
  exact Fallible.mapM_succeeds_iff.1 ⟨parts, success⟩

theorem header_eq {shaders : List Shader} {part : Shader → Text}
    (made : ∀ shader ∈ shaders, world.part settings shader = .ok (part shader)) :
    world.header settings shaders = .ok (Header.preamble ++ shaders.flatMap part) := by
  have parts : shaders.mapM (world.part settings) = .ok (shaders.map part) := by
    induction shaders with
    | nil => rfl
    | cons shader rest ih =>
      obtain ⟨here, there⟩ := List.forall_mem_cons.1 made
      rw [List.mapM_cons, here, ih there]
      rfl
  rw [World.header, parts, Except.map, List.flatMap]

end Command
end ShaderInterface
