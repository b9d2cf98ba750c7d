import ShaderInterface.Proofs.Command.Upkeep
import ShaderInterface.Proofs.Interface.Faults

set_option autoImplicit false

namespace ShaderInterface

open Command (Shader Finding Failure)

namespace FileTree

/-- Whatever a path leads to has a time. -/
theorem WellFormed.modified_of_isPresent {tree : FileTree} {current : Location} {path : Path}
    (wellFormed : tree.WellFormed) (start : tree.HasDirectory current) (written : path.IsWritten)
    (present : tree.isPresent current path = true) :
    ∃ time, tree.modified current path = .ok time := by
  cases known : tree.status current path with
  | error error =>
    rw [isPresent, known] at present
    cases present
  | ok entry =>
    obtain ⟨place, reached, there⟩ := status_eq_ok_iff.1 known
    cases entry with
    | file content time => exact ⟨time, modified_eq_ok_iff.2 ⟨_, known, rfl⟩⟩
    | directory time => exact ⟨time, modified_eq_ok_iff.2 ⟨_, known, rfl⟩⟩
    | link target =>
      -- a look-up follows the links that it comes to
      have linked := look_eq_link_iff.2 there
      obtain ⟨-, -, -, -, -, solid⟩ :=
        wellFormed.locate_end reached start written (by simp [HasDirectory, linked])
      exact absurd linked (solid target)

end FileTree

namespace World

variable {world after : World} {settings : Settings} {shader : Shader} {headerPath : Path}

/-- The directories of the header can be made, and then it can be written. -/
def CanWrite (world : World) (headerPath : Path) : Prop :=
  ∃ middle, (Host.makeDirectories headerPath.parent : Session _) world = (.ok (), middle) ∧
    ∀ content, ∃ tree,
      middle.tree.write middle.now middle.current headerPath content = .ok tree

/-- The file of the shader is no text, or it has a number that cannot be read. -/
def Crashes (world : World) (settings : Settings) (shader : Shader) : Prop :=
  (∃ bytes, world.tree.read world.current shader.path = .ok bytes ∧
    Text.ofBytes? bytes = none) ∨
  ∃ source literal, world.text shader.path = .ok source ∧ Text.IsUnread literal ∧
    (Interface.ofSource settings shader.written source).result =
      .error (.unreadableNumber literal)

theorem Raised.canRead {path : Path} (raised : world.Raised headerPath after)
    (readable : world.canRead path = true) : after.canRead path = true := by
  obtain ⟨last, content, time, reached, there⟩ := canRead_iff.1 readable
  refine canRead_iff.2 ⟨last, content, time, raised.current ▸ raised.grown.locate reached, ?_⟩
  rw [raised.grown.kept (there ▸ nofun), there]

theorem finding_succeeds (wellFormed : world.WellFormed) (written : headerPath.IsWritten)
    {files : List (Text × Text)}
    (readable : ∀ file ∈ files, world.canRead (Command.pathOf file) = true) :
    ∃ finding, world.finding headerPath files = .ok finding := by
  induction files with
  | nil => exact ⟨_, rfl⟩
  | cons file rest ih =>
    obtain ⟨here, others⟩ := List.forall_mem_cons.1 readable
    obtain ⟨behind, found⟩ := ih others
    have newer : ∃ newer, world.isNewer (Command.pathOf file) headerPath = .ok newer := by
      rw [isNewer]
      split
      · next present =>
        obtain ⟨last, content, time, reached, there⟩ := canRead_iff.1 here
        have dated : world.tree.modified world.current (Command.pathOf file) = .ok time :=
          FileTree.modified_eq_ok_iff.2 ⟨_, FileTree.status_eq_file_iff.2 ⟨last, reached, there⟩,
            rfl⟩
        obtain ⟨limit, known⟩ :=
          wellFormed.tree.modified_of_isPresent wellFormed.current written present
        rw [dated, known]
        exact ⟨_, rfl⟩
      · exact ⟨_, rfl⟩
    obtain ⟨newer, known⟩ := newer
    rw [finding, known, found]
    exact ⟨_, rfl⟩

/-- A shader has a part in the header as soon as it has an interface. -/
theorem part_succeeds_iff :
    (∃ part, world.part settings shader = .ok part) ↔
      ∃ i, world.interface settings shader = .ok i := by
  constructor
  · rintro ⟨part, made⟩
    obtain ⟨i, known, -⟩ := Fallible.bind_eq_ok_iff.1 made
    exact ⟨i, known⟩
  · rintro ⟨i, known⟩
    rw [part, known]
    obtain ⟨source, -, resolved⟩ := Fallible.bind_eq_ok_iff.1 known
    cases read : (Interface.ofSource settings shader.written source).result with
    | error error =>
      rw [read] at resolved
      cases resolved
    | ok resolvedInterface =>
      rw [read] at resolved
      cases resolved
      obtain ⟨stated, -, success⟩ := Interface.ofSource_eq_ok_iff.1 read
      obtain ⟨texts, written⟩ := Interface.resolve_structs success shader.name
      have text := Header.shaderPart_eq_ok_iff.2 ⟨texts, written, rfl⟩
      exact ⟨_, congrArg (Except.mapError Failure.unknownType) text⟩

/-- A part of a header is missing only because the interface is. -/
theorem interface_eq_of_part_error {failure : Failure}
    (failed : world.part settings shader = .error failure) :
    world.interface settings shader = .error failure := by
  cases known : world.interface settings shader with
  | error reason =>
    rw [part, known] at failed
    cases failed
    rfl
  | ok i =>
    obtain ⟨text, made⟩ := part_succeeds_iff.2 ⟨i, known⟩
    rw [made] at failed
    cases failed

/-- A shader in a readable file without an interface is reported, or it crashes the run. -/
theorem status_of_interface_error {failure : Failure}
    (readable : world.canRead shader.path = true)
    (failed : world.interface settings shader = .error failure) :
    failure.status = .ok 1 ∨
      world.Crashes settings shader ∧ failure.status = .error failure := by
  rw [interface] at failed
  rcases Fallible.bind_eq_error_iff.1 failed with unread | ⟨source, read, broken⟩
  · rw [canRead] at readable
    cases bytes : world.tree.read world.current shader.path with
    | error error =>
      rw [bytes] at readable
      cases readable
    | ok content =>
      simp only [text, bytes] at unread
      split at unread
      · next noText =>
        cases unread
        exact .inr ⟨.inl ⟨content, bytes, noText⟩, rfl⟩
      · cases unread
  · cases result : (Interface.ofSource settings shader.written source).result with
    | ok i =>
      rw [result] at broken
      cases broken
    | error error =>
      rw [result] at broken
      cases broken
      rcases Interface.ofSource_failsAs error result with reported | ⟨literal, rfl, unread⟩
      · exact .inl (if_pos reported)
      · exact .inr ⟨.inr ⟨source, literal, read, unread, result⟩, rfl⟩

theorem Crashes.part (crashes : world.Crashes settings shader) :
    ∃ failure, world.part settings shader = .error failure ∧
      failure.status = .error failure := by
  rcases crashes with ⟨bytes, read, noText⟩ | ⟨source, literal, read, -, failed⟩
  · refine ⟨.notText shader.path, ?_, rfl⟩
    have text : world.text shader.path = .error (.notText shader.path) := by
      simp only [World.text, read, noText]
    rw [World.part, interface, text]
    rfl
  · refine ⟨.shader (.unreadableNumber literal), ?_, rfl⟩
    rw [World.part, interface, read, Except.bind, failed]
    rfl

end World

namespace Command

open Session

variable {world middle after : World} {answer : Result Nat} {options : Options}
  {root shaders headerPath top : Path} {arguments : List Text} {settings : Settings}
  {listed : List Shader} {finding : Finding}

/-- The first shader without an interface crashes the run. -/
def StopsAtCrash (world : World) (settings : Settings) (listed : List Shader) : Prop :=
  ∃ before shader rest, listed = before ++ shader :: rest ∧
    (∀ earlier ∈ before, ∃ i, world.interface settings earlier = .ok i) ∧
    world.Crashes settings shader

/-- A header that cannot be made is reported, unless the first shader that is to blame crashes. -/
theorem status_of_header_error {failure : Failure}
    (readable : ∀ shader ∈ listed, world.canRead shader.path = true)
    (failed : world.header settings listed = .error failure) :
    failure.status = .ok 1 ∧ ¬StopsAtCrash world settings listed ∨
      failure.status = .error failure ∧ StopsAtCrash world settings listed := by
  rw [World.header, Fallible.map_eq_error_iff] at failed
  obtain ⟨before, shader, rest, rfl, earlier, blamed⟩ := Fallible.mapM_eq_error_iff.1 failed
  have missing := World.interface_eq_of_part_error blamed
  rcases World.status_of_interface_error (readable shader (by simp)) missing with
    reported | ⟨crashes, uncaught⟩
  · refine .inl ⟨reported, ?_⟩
    rintro ⟨other, culprit, others, same, sound, crashes⟩
    -- both are the first shader without a part
    obtain ⟨reason, stops, uncaught⟩ := crashes.part
    have again := Fallible.mapM_eq_error_iff.2 ⟨other, culprit, others, same,
      fun item member => World.part_succeeds_iff.2 (sound item member), stops⟩
    rw [failed] at again
    cases again
    rw [reported] at uncaught
    cases uncaught
  · exact .inr ⟨uncaught, before, shader, rest, rfl,
      fun item member => World.part_succeeds_iff.1 (earlier item member), crashes⟩

theorem exists_status_iff {failure : Failure}
    (readable : ∀ shader ∈ listed, world.canRead shader.path = true)
    (failed : world.header settings listed = .error failure) :
    (∃ status ≤ 1, failure.status = .ok status) ↔ ¬StopsAtCrash world settings listed := by
  rcases status_of_header_error readable failed with ⟨reported, spared⟩ | ⟨uncaught, crashes⟩
  · exact iff_of_true ⟨1, le_rfl, reported⟩ spared
  · exact iff_of_false (by simp [uncaught]) (not_not_intro crashes)

theorem not_stopsAtCrash {text : Text} (made : world.header settings listed = .ok text) :
    ¬StopsAtCrash world settings listed := by
  rintro ⟨before, shader, rest, rfl, -, crashes⟩
  obtain ⟨part, known⟩ := header_ok made shader (by simp)
  obtain ⟨failure, failed, -⟩ := crashes.part
  rw [known] at failed
  cases failed

/-- After the directories for the header are made, the shaders are found and their files can be
read, if the files of the directory can be read before. -/
theorem finding_readable (wellFormed : world.WellFormed) (written : headerPath.IsWritten)
    (raised : world.Raised headerPath.parent middle)
    (there : world.tree.isDirectory world.current top = true)
    (readable : ∀ file ∈ listing world.tree world.current top,
      world.canRead (pathOf file) = true) :
    ∃ finding, middle.finding headerPath (listing middle.tree middle.current top) = .ok finding ∧
      ∀ shader ∈ finding.shaders, middle.canRead shader.path = true := by
  have readableThen : ∀ file ∈ listing middle.tree middle.current top,
      middle.canRead (pathOf file) = true := by
    intro file member
    rw [raised.current] at member
    exact raised.canRead (readable file
      (mem_listing_of_grown raised.grown wellFormed.tree raised.wellFormed.tree there member))
  obtain ⟨finding, found⟩ := World.finding_succeeds raised.wellFormed written readableThen
  refine ⟨finding, found, fun shader member => ?_⟩
  rw [(finding_ok found).1] at member
  obtain ⟨file, listed, named⟩ := List.mem_filterMap.1 member
  rw [path_of_shaderOf? named]
  exact readableThen file listed

/-- The status of an update whose shaders are found in readable files and whose header can be
written. -/
theorem Ending.hasStatus (ends : Ending options headerPath top world answer after)
    (raised : world.Raised headerPath.parent middle)
    (made : (Host.makeDirectories headerPath.parent : Session _) world = (.ok (), middle))
    (found : middle.finding headerPath (listing middle.tree middle.current top) = .ok finding)
    (readable : ∀ shader ∈ finding.shaders, middle.canRead shader.path = true)
    (writes : ∀ content, ∃ tree,
      middle.tree.write middle.now middle.current headerPath content = .ok tree) :
    ((∃ status ≤ 1, answer = .ok status) ↔
      ¬((finding.outdated || options.force) = true ∧
        StopsAtCrash middle options.settings finding.shaders)) ∧
    ((finding.outdated || options.force) = true →
      (∃ shader ∈ finding.shaders, ∀ i, middle.interface options.settings shader ≠ .ok i) →
      answer ≠ .ok 0 ∧ world.Raised headerPath.parent after) := by
  cases ends with
  | blocked blocked =>
    rw [made] at blocked
    cases blocked
  | lost again lost =>
    cases made.symm.trans again
    rw [found] at lost
    cases lost
  | skipped again foundAgain unasked =>
    cases made.symm.trans again
    cases found.symm.trans foundAgain
    rw [unasked]
    exact ⟨iff_of_true ⟨0, by omega, rfl⟩ (by simp), by simp⟩
  | @failed _ _ failure _ _ again foundAgain asked parts status =>
    cases made.symm.trans again
    cases found.symm.trans foundAgain
    have ended : failure.status = answer := status
    rw [← ended, and_iff_right asked]
    exact ⟨exists_status_iff readable parts,
      fun _ _ => ⟨failure.status_ne_zero, raised.shown _⟩⟩
  | unwritten again foundAgain asked parts refused =>
    cases made.symm.trans again
    obtain ⟨tree, done⟩ := writes (Text.toBytes _)
    rw [done] at refused
    cases refused
  | wrote again foundAgain asked parts done =>
    cases made.symm.trans again
    cases found.symm.trans foundAgain
    refine ⟨iff_of_true ⟨0, by omega, rfl⟩ fun both => not_stopsAtCrash parts both.2, ?_⟩
    rintro - ⟨shader, member, broken⟩
    obtain ⟨part, known⟩ := header_ok parts shader member
    obtain ⟨i, known⟩ := World.part_succeeds_iff.1 ⟨part, known⟩
    exact absurd known (broken i)

/-- On readable files and a header that can be written, a run has an exit status exactly when it
does not come to a shader that is no text or has a number that cannot be read. If it comes to any
shader without an interface, it does not succeed and leaves the header alone. -/
theorem run_has_status (rooted : root.IsWritten) (wellFormed : world.WellFormed)
    (stated : Options.ofArguments arguments = .ok options)
    (placed : options.shaders? root = some shaders)
    (there : world.tree.isDirectory world.current (options.directory shaders) = true)
    (readable : ∀ file ∈ listing world.tree world.current (options.directory shaders),
      world.canRead (pathOf file) = true)
    (writable : world.CanWrite (options.header root))
    (runs : (run root arguments : Session _) world = (answer, after)) :
    ∃ middle finding,
      (Host.makeDirectories (options.header root).parent : Session _) world = (.ok (), middle) ∧
      ((find (options.header root) (options.directory shaders) : Session _) middle).1 =
        .ok finding ∧
      ((∃ status ≤ 1, answer = .ok status) ↔
        ¬((finding.outdated || options.force) = true ∧
          StopsAtCrash middle options.settings finding.shaders)) ∧
      ((finding.outdated || options.force) = true →
        (∃ shader ∈ finding.shaders, ∀ i, middle.interface options.settings shader ≠ .ok i) →
        answer ≠ .ok 0 ∧ world.Raised (options.header root).parent after) := by
  have written := (Options.ofArguments_isWritten stated).header rooted
  obtain ⟨middle, made, writes⟩ := writable
  have raised := makeDirectories_raised written.parent wellFormed
  rw [made] at raised
  obtain ⟨finding, found, readableShaders⟩ :=
    finding_readable wellFormed written raised there readable
  obtain ⟨_, searched⟩ :=
    (answers_find (options.header root) (options.directory shaders) middle).apply
  have ends := update_ends options (options.header root) (options.directory shaders) world
  rw [← run_apply stated placed there, runs] at ends
  exact ⟨middle, finding, made, searched ▸ found,
    ends.hasStatus raised made found readableShaders writes⟩

section Gallery

/-- A project with one shader, whose file has the given bytes. -/
def gallerySpoiled (content : ByteArray) : World where
  tree := ⟨[(["p"], .directory 0), (["p", "gen"], .directory 0), (["p", "shaders"], .directory 0),
    (["p", "shaders", "a.wgsl"], .file content 1)], of_decide_eq_true rfl⟩
  current := []
  now := 9
  shown := []

def raisedSource : Text :=
  ['\n'].intercalate (["#Data", "@group(²) @binding(0) var<uniform> lamp \x7b power: f32 \x7d",
    "#end", "fn vs_main() \x7b", "fn fs_main() \x7b"].map String.toList)

variable {content : ByteArray}

theorem gallerySpoiled_wellFormed : (gallerySpoiled content).WellFormed where
  tree := FileTree.wellFormed_of_entries (of_decide_eq_true rfl) (of_decide_eq_true rfl)
    (of_decide_eq_true rfl)
  current := FileTree.hasDirectory_root

theorem listing_gallerySpoiled :
    listing (gallerySpoiled content).tree (gallerySpoiled content).current galleryTop =
      [galleryFile "a"] := by
  rw [listing_of_sorted (of_decide_eq_true rfl) (of_decide_eq_true rfl)]
  rfl

theorem canRead_gallerySpoiled :
    ∀ file ∈ listing (gallerySpoiled content).tree (gallerySpoiled content).current galleryTop,
      (gallerySpoiled content).canRead (pathOf file) = true := by
  rw [listing_gallerySpoiled]
  simp only [List.mem_singleton, forall_eq]
  rfl

theorem makeDirectories_gallerySpoiled :
    (Host.makeDirectories galleryPath.parent : Session _) (gallerySpoiled content) =
      (.ok (), gallerySpoiled content) :=
  makeDirectories_of_isDirectory rfl

theorem canWrite_gallerySpoiled : (gallerySpoiled content).CanWrite galleryPath :=
  ⟨_, makeDirectories_gallerySpoiled, fun _ => ⟨_, rfl⟩⟩

theorem finding_gallerySpoiled :
    (gallerySpoiled content).finding galleryPath
      (listing (gallerySpoiled content).tree (gallerySpoiled content).current galleryTop) =
      .ok ⟨[galleryShader "a"], true⟩ := by
  rw [listing_gallerySpoiled]
  rfl

/-- A run that crashes has no status. -/
theorem run_gallerySpoiled
    (crashes : (gallerySpoiled content).Crashes (galleryOptions none).settings (galleryShader "a"))
    (status : Nat) :
    ((run galleryRoot [] : Session _) (gallerySpoiled content)).1 ≠ .ok status := by
  obtain ⟨failure, failed, uncaught⟩ := crashes.part
  have parts : (gallerySpoiled content).header (galleryOptions none).settings
      [galleryShader "a"] = .error failure :=
    Fallible.map_eq_error_iff.2 (Fallible.mapM_eq_error_iff.2
      ⟨[], galleryShader "a", [], rfl, nofun, failed⟩)
  obtain ⟨searched, -, update⟩ := update_found (galleryOptions none) makeDirectories_gallerySpoiled
    (finding_gallerySpoiled : (gallerySpoiled content).finding _ _ = _)
  obtain ⟨shown, fails⟩ : ∃ shown, (regenerate (galleryOptions none) galleryPath
      [galleryShader "a"] : Session _) { gallerySpoiled content with shown := searched } =
      (failure.status, { gallerySpoiled content with shown }) := regenerate_fails searched parts
  have stated : Options.ofArguments [] = .ok (galleryOptions none) := rfl
  have ends : (run galleryRoot [] : Session _) (gallerySpoiled content) =
      (failure.status, { gallerySpoiled content with shown }) :=
    (run_apply stated gallery_placed rfl).trans (update.trans fails)
  rw [ends, uncaught]
  nofun

/-- One shader that is no text. -/
theorem run_has_status_spoiled :
    let world := gallerySpoiled ⟨#[0xff]⟩
    (galleryRoot.IsWritten ∧ world.WellFormed ∧
      Options.ofArguments [] = .ok (galleryOptions none) ∧
      (galleryOptions none).shaders? galleryRoot = some galleryTop ∧
      world.tree.isDirectory world.current galleryTop = true ∧
      (∀ file ∈ listing world.tree world.current galleryTop,
        world.canRead (pathOf file) = true) ∧ world.CanWrite galleryPath) ∧
    ((∃ status ≤ 1, ((run galleryRoot [] : Session _) world).1 = .ok status) ↔
      ¬StopsAtCrash world (galleryOptions none).settings [galleryShader "a"]) := by
  intro world
  have rooted : galleryRoot.IsWritten := Path.ofText_isWritten "/p"
  have stated : Options.ofArguments [] = .ok (galleryOptions none) := rfl
  have there : world.tree.isDirectory world.current galleryTop = true := rfl
  refine ⟨⟨rooted, gallerySpoiled_wellFormed, stated, gallery_placed, there,
    canRead_gallerySpoiled, canWrite_gallerySpoiled⟩, ?_⟩
  obtain ⟨middle, finding, made, found, status, -⟩ :=
    run_has_status rooted gallerySpoiled_wellFormed stated gallery_placed there
      canRead_gallerySpoiled canWrite_gallerySpoiled rfl
  cases makeDirectories_gallerySpoiled.symm.trans made
  obtain ⟨_, searched⟩ := (answers_find galleryPath galleryTop world).apply
  obtain rfl : finding = ⟨[galleryShader "a"], true⟩ :=
    Except.ok.inj (found.symm.trans ((congrArg Prod.fst searched).trans finding_gallerySpoiled))
  exact status.trans (not_congr (and_iff_right rfl))

/-- One readable shader, a header that can be written, and a run that has no status. -/
def LacksStatus (world : World) : Prop :=
  (world.WellFormed ∧ world.tree.isDirectory world.current galleryTop = true ∧
    (∀ file ∈ listing world.tree world.current galleryTop,
      world.canRead (pathOf file) = true) ∧ world.CanWrite galleryPath) ∧
  ∀ status, ((run galleryRoot [] : Session _) world).1 ≠ .ok status

theorem lacksStatus
    (crashes : (gallerySpoiled content).Crashes (galleryOptions none).settings (galleryShader "a")) :
    LacksStatus (gallerySpoiled content) :=
  ⟨⟨gallerySpoiled_wellFormed, rfl, canRead_gallerySpoiled, canWrite_gallerySpoiled⟩,
    run_gallerySpoiled crashes⟩

/-- A byte that starts no character, and a group that is no number, end a run without a status. -/
theorem run_without_status :
    LacksStatus (gallerySpoiled ⟨#[0xff]⟩) ∧
    LacksStatus (gallerySpoiled (Text.toBytes raisedSource)) := by
  have digit : Text.isDigit '²' = true := by decide +kernel
  have unread : Text.IsUnread "²" := ⟨by simpa using digit, .inr ⟨'²', by decide +kernel⟩⟩
  exact ⟨lacksStatus (.inl ⟨_, rfl, rfl⟩),
    lacksStatus (.inr ⟨_, "²", World.text_of_read rfl, unread, by decide +kernel⟩)⟩

end Gallery

end Command
end ShaderInterface
