import ShaderInterface.Proofs.Command.Session
import ShaderInterface.Proofs.Files.Growth

set_option autoImplicit false

namespace ShaderInterface

/-- The files are those of a file system, and the current directory is one of them. -/
structure World.WellFormed (world : World) : Prop where
  tree : world.tree.WellFormed
  current : world.tree.HasDirectory world.current

/-- A path leads to the place, or one above it does. -/
def World.OnWay (world : World) (path : Path) (place : Location) : Prop :=
  ∃ parts, parts <+: path.parts ∧
    world.tree.locate .status world.current ⟨path.slashes, parts⟩ = .ok place

/-- The second world is the first with directories made on the way of a path. Nothing else is
different but what is shown. -/
structure World.Raised (path : Path) (world after : World) : Prop where
  current : after.current = world.current
  now : after.now = world.now
  wellFormed : after.WellFormed
  grown : world.tree.Grown after.tree
  onWay : ∀ place, after.tree.HasDirectory place →
    world.tree.HasDirectory place ∨ after.OnWay path place

namespace World.Raised

variable {path : Path} {world middle after : World}

theorem refl (path : Path) (wellFormed : world.WellFormed) : world.Raised path world :=
  ⟨rfl, rfl, wellFormed, .refl _, fun _ => .inl⟩

theorem trans (first : world.Raised path middle) (second : middle.Raised path after) :
    world.Raised path after where
  current := second.current.trans first.current
  now := second.now.trans first.now
  wellFormed := second.wellFormed
  grown := first.grown.trans second.grown
  onWay place inside := by
    rcases second.onWay place inside with before | way
    · refine (first.onWay place before).imp_right ?_
      rintro ⟨parts, above, reached⟩
      exact ⟨parts, above, second.current ▸ second.grown.locate reached⟩
    · exact .inr way

theorem shown (raised : world.Raised path after) (shown : List Text) :
    world.Raised path { after with shown } :=
  ⟨raised.current, raised.now, ⟨raised.wellFormed.1, raised.wellFormed.2⟩, raised.grown,
    raised.onWay⟩

theorem isDirectory (raised : world.Raised path after) {other : Path}
    (there : world.tree.isDirectory world.current other = true) :
    after.tree.isDirectory after.current other = true :=
  raised.current ▸ raised.grown.isDirectory there

end World.Raised

namespace FileTree

variable {tree : FileTree} {current : Location} {path : Path}

/-- What lies above the end of a path is a directory. -/
theorem isDirectory_above {place : Location} {slashes : Nat} {above : List Text} {part : Text}
    (reached : tree.locate .status current ⟨slashes, above ++ [part]⟩ = .ok place) :
    tree.isDirectory current ⟨slashes, above⟩ = true := by
  obtain ⟨nameable, leads⟩ := locate_eq_ok_iff.1 reached
  obtain ⟨middle, -, -, before, halfway, -⟩ := Leads.split _ _ _ leads (List.cons_ne_nil _ _)
  rw [Path.isNameable, List.all_append, Bool.and_eq_true] at nameable
  exact isDirectory_eq_true_iff.2 ⟨middle, locate_eq_ok_iff.2 ⟨nameable.1, before⟩, halfway⟩

/-- The directory of a file is one. -/
theorem isDirectory_parent {content : ByteArray} {time : Int}
    (found : tree.status current path = .ok (.file content time))
    (inside : tree.HasDirectory current) : tree.isDirectory current path.parent = true := by
  obtain ⟨place, reached, there⟩ := status_eq_file_iff.1 found
  obtain ⟨slashes, parts⟩ := path
  rcases List.eq_nil_or_concat' parts with rfl | ⟨above, part, rfl⟩
  · have start := inside.start ⟨slashes, []⟩
    rw [← (locate_eq_ok_iff.1 reached).2.eq_of_nil, HasDirectory, there] at start
    cases start
  · rw [Path.parent, List.dropLast_concat]
    exact isDirectory_above reached

/-- Where a directory is, none can be made. -/
theorem makeDirectory_of_isDirectory (now : Int) (there : tree.isDirectory current path = true) :
    ∃ error, tree.makeDirectory now current path = .error error := by
  obtain ⟨place, reached, inside⟩ := isDirectory_eq_true_iff.1 there
  cases made : tree.makeDirectory now current path with
  | error error => exact ⟨error, rfl⟩
  | ok next =>
    obtain ⟨other, found, success⟩ := Fallible.bind_eq_ok_iff.1 made
    cases here : tree.entry? other with
    | some entry =>
      rw [here] at success
      cases success
    | none =>
      have absent := look_eq_none_iff.2 here
      have again := locate_status found fun _ target => by simp [absent]
      rw [reached] at again
      cases again
      exact absurd absent inside.present

theorem isPresent_of_isDirectory (there : tree.isDirectory current path = true) :
    tree.isPresent current path = true := by
  obtain ⟨place, reached, inside⟩ := isDirectory_eq_true_iff.1 there
  obtain ⟨time, found⟩ := hasDirectory_iff.1 inside
  rw [isPresent, status_eq_ok_iff.2 ⟨place, reached, found⟩]
  rfl

theorem isPresent_of_modified {time : Int} (dated : tree.modified current path = .ok time) :
    tree.isPresent current path = true := by
  obtain ⟨entry, known, -⟩ := modified_eq_ok_iff.1 dated
  rw [isPresent, known]
  rfl

end FileTree

namespace Session

variable {world : World} {path : Path}

theorem makeDirectory_apply (path : Path) (world : World) :
    (Host.makeDirectory path : Session _) world =
      match world.tree.makeDirectory world.now world.current path with
      | .error error => (.error error, world)
      | .ok tree => (.ok (), { world with tree }) := rfl

theorem settle_of_isDirectory (there : world.tree.isDirectory world.current path = true) :
    (Host.makeDirectoriesFrom.settle path : Session _) world = (.ok (), world) := by
  obtain ⟨error, refused⟩ := FileTree.makeDirectory_of_isDirectory world.now there
  have directory : (Host.isDirectory path : Session _) world = (true, world) :=
    congrArg (·, world) there
  rw [Host.makeDirectoriesFrom.settle, bind_apply, makeDirectory_apply, refused]
  simp only [bind_apply, directory]
  rfl

/-- Nothing is done where the directory is there. -/
theorem makeDirectories_of_isDirectory
    (there : world.tree.isDirectory world.current path = true) :
    (Host.makeDirectories path : Session _) world = (.ok (), world) := by
  rw [Host.makeDirectories]
  cases reversed : path.parts.reverse with
  | nil =>
    rw [List.reverse_eq_nil_iff] at reversed
    rw [Host.makeDirectoriesFrom]
    apply settle_of_isDirectory
    rw [← reversed]
    exact there
  | cons part above =>
    have parts : path.parts = above.reverse ++ [part] := by
      rw [← List.reverse_reverse path.parts, reversed, List.reverse_cons]
    have whole : path = ⟨path.slashes, above.reverse ++ [part]⟩ := by rw [← parts]
    rw [whole] at there
    obtain ⟨place, reached, -⟩ := FileTree.isDirectory_eq_true_iff.1 there
    have present : (Host.isPresent ⟨path.slashes, above.reverse⟩ : Session _) world =
        (true, world) :=
      congrArg (·, world) (FileTree.isPresent_of_isDirectory (FileTree.isDirectory_above reached))
    have settled := settle_of_isDirectory there
    rw [← List.reverse_cons] at settled
    rw [Host.makeDirectoriesFrom, bind_apply, present]
    simp only [Bool.or_true, if_true, pure_apply, bind_apply]
    exact settled

theorem raised_bind {α β : Type} {first : Session α} {next : α → Session β} {world : World}
    (here : world.Raised path (first world).2)
    (onward : ∀ answer (middle : World), middle.WellFormed →
      middle.Raised path (next answer middle).2) :
    world.Raised path ((first >>= next) world).2 :=
  here.trans (onward (first world).1 (first world).2 here.wellFormed)

section

variable {parts : List Text} (written : path.IsWritten) (wellFormed : world.WellFormed)
include written wellFormed

theorem makeDirectory_raised (above : parts <+: path.parts) :
    world.Raised path ((Host.makeDirectory ⟨path.slashes, parts⟩ : Session _) world).2 := by
  have writtenAbove : Path.IsWritten ⟨path.slashes, parts⟩ :=
    ⟨written.slashes, fun part member => written.parts part (above.subset member)⟩
  rw [makeDirectory_apply]
  cases made : world.tree.makeDirectory world.now world.current ⟨path.slashes, parts⟩ with
  | error error => exact .refl path wellFormed
  | ok next =>
    obtain ⟨place, reached, absent, changed, kept⟩ :=
      wellFormed.tree.makeDirectory_ok wellFormed.current writtenAbove made
    have grown := changed.grown absent
    refine ⟨rfl, rfl, ⟨kept, grown.directories wellFormed.current⟩, grown, ?_⟩
    intro elsewhere inside
    rw [FileTree.HasDirectory, changed] at inside
    split at inside
    · next same => exact .inr ⟨parts, above, same ▸ grown.locate reached⟩
    · exact .inl inside

theorem settle_raised (above : parts <+: path.parts) :
    world.Raised path
      ((Host.makeDirectoriesFrom.settle ⟨path.slashes, parts⟩ : Session _) world).2 := by
  rw [Host.makeDirectoriesFrom.settle]
  refine raised_bind (makeDirectory_raised written wellFormed above) fun answer middle kept => ?_
  cases answer with
  | ok => exact .refl path kept
  | error error => exact .refl path kept

theorem makeDirectoriesFrom_raised {reversed : List Text}
    (above : reversed.reverse <+: path.parts) :
    world.Raised path
      ((Host.makeDirectoriesFrom path.slashes reversed : Session _) world).2 := by
  induction reversed generalizing world with
  | nil => exact settle_raised written wellFormed List.nil_prefix
  | cons part reversed ih =>
    have higher : reversed.reverse <+: path.parts :=
      (List.reverse_cons ▸ List.prefix_append _ [part]).trans above
    rw [Host.makeDirectoriesFrom]
    refine raised_bind (.refl path wellFormed) fun present middle kept => ?_
    split <;> refine raised_bind ?_ fun refused last keptLast => ?_
    case isTrue.refine_1 => exact .refl path kept
    case isFalse.refine_1 => exact ih kept higher
    -- what is above is there now, or was in the way
    all_goals
      cases refused with
      | ok => exact settle_raised written keptLast above
      | error error =>
        cases error with
        | present => exact settle_raised written keptLast above
        | absent | notDirectory | isDirectory | tooManyLinks | unnameable | other =>
          exact .refl path keptLast

/-- Making directories makes none but those on the way. -/
theorem makeDirectories_raised :
    world.Raised path ((Host.makeDirectories path : Session _) world).2 :=
  makeDirectoriesFrom_raised written wellFormed (List.reverse_reverse _ ▸ List.prefix_rfl)

end

end Session

namespace Command

open Session

variable {world after : World} {options : Options} {headerPath top : Path} {finding : Finding}
  {text : Text}

def wroteLine (headerPath : Path) : Text := "reflect_shaders.py: wrote " ++ headerPath.text

def skippedLine (headerPath : Path) : Text :=
  "reflect_shaders.py: Nothing to be done for " ++ headerPath.name

theorem wroteLine_ne_skippedLine (first second : Path) : wroteLine first ≠ skippedLine second := by
  intro same
  have wrote : (wroteLine first)[20]? = some 'w' := rfl
  have skipped : (skippedLine second)[20]? = some 'N' := rfl
  rw [same, skipped] at wrote
  cases wrote

section

variable {shaders : List Shader} {tree : FileTree}

theorem regenerate_writes (before : List Text)
    (parts : world.header options.settings shaders = .ok text)
    (written : world.tree.write world.now world.current headerPath (Text.toBytes text) =
      .ok tree) :
    ∃ shown, (regenerate options headerPath shaders : Session _) { world with shown := before } =
      (.ok 0, { world with tree, shown := shown ++ [wroteLine headerPath] }) := by
  obtain ⟨shown, -, answered⟩ :=
    answers_header options.settings options.dumpTables shaders world before
  have change : (Host.write headerPath (Text.toBytes text) : Session _) { world with shown } =
      (.ok (), { world with tree, shown }) := by
    simp only [Host.write, change, written]
  refine ⟨shown, ?_⟩
  rw [regenerate, bind_apply, answered, parts]
  simp only [bind_apply, change]
  rfl

def Failure.status : Failure → Result Nat
  | .shader error => if error.isReported then .ok 1 else .error (.shader error)
  | .file _ _ => .ok 1
  | failure => .error failure

theorem Failure.status_ne_zero (failure : Failure) : failure.status ≠ .ok 0 := by
  cases failure with
  | shader error =>
    rw [status]
    split <;> simp
  | refused | file | notText | unknownType | withoutShaders => simp [status]

/-- A header that cannot be made is left as it is. -/
theorem regenerate_fails {failure : Failure} (before : List Text)
    (parts : world.header options.settings shaders = .error failure) :
    ∃ shown, (regenerate options headerPath shaders : Session _) { world with shown := before } =
      (failure.status, { world with shown }) := by
  obtain ⟨shown, -, answered⟩ :=
    answers_header options.settings options.dumpTables shaders world before
  rw [regenerate, bind_apply, answered, parts]
  cases failure with
  | shader error =>
    rw [Failure.status]
    by_cases reported : error.isReported = true
    · simp only [if_pos reported]
      exact ⟨_, rfl⟩
    · simp only [if_neg reported]
      exact ⟨_, rfl⟩
  | refused | file | notText | unknownType | withoutShaders => exact ⟨_, rfl⟩

theorem regenerate_refused {error : FileError} (before : List Text)
    (parts : world.header options.settings shaders = .ok text)
    (refused : world.tree.write world.now world.current headerPath (Text.toBytes text) =
      .error error) :
    ∃ shown, (regenerate options headerPath shaders : Session _) { world with shown := before } =
      (.error (.file error headerPath), { world with shown }) := by
  obtain ⟨shown, -, answered⟩ :=
    answers_header options.settings options.dumpTables shaders world before
  have change : (Host.write headerPath (Text.toBytes text) : Session _) { world with shown } =
      (.error error, { world with shown }) := by
    simp only [Host.write, change, refused]
  refine ⟨shown, ?_⟩
  rw [regenerate, bind_apply, answered, parts]
  simp only [bind_apply, change]
  rfl

end

/-- What an update does once it knows the shaders. -/
theorem update_found {middle : World} (options : Options)
    (made : (Host.makeDirectories headerPath.parent : Session _) world = (.ok (), middle))
    (found : middle.finding headerPath (listing middle.tree middle.current top) = .ok finding) :
    ∃ shown, middle.shown <+: shown ∧ (update options headerPath top : Session _) world =
      if (finding.outdated || options.force) = true then
        (regenerate options headerPath finding.shaders : Session _) { middle with shown }
      else (.ok 0, { middle with shown := shown ++ [skippedLine headerPath] }) := by
  obtain ⟨shown, more, answered⟩ := answers_find headerPath top middle middle.shown
  rw [update, bind_apply, made]
  simp only [bind_apply, answered, found]
  split
  · refine ⟨shown ++ [Colour.yellow.paint
      ("Warning: no .wgsl shaders found in " ++ top.text)],
      more.trans (List.prefix_append _ _), ?_⟩
    split <;> rfl
  · refine ⟨shown, more, ?_⟩
    split <;> rfl

/-- An update writes a header that is outdated or asked for. -/
theorem update_writes {middle : World} {tree : FileTree}
    (made : (Host.makeDirectories headerPath.parent : Session _) world = (.ok (), middle))
    (found : middle.finding headerPath (listing middle.tree middle.current top) = .ok finding)
    (asked : (finding.outdated || options.force) = true)
    (parts : middle.header options.settings finding.shaders = .ok text)
    (written : middle.tree.write middle.now middle.current headerPath (Text.toBytes text) =
      .ok tree) :
    ∃ shown, (update options headerPath top : Session _) world =
      (.ok 0, { middle with tree, shown := shown ++ [wroteLine headerPath] }) := by
  obtain ⟨searched, -, update⟩ := update_found options made found
  obtain ⟨shown, writes⟩ := regenerate_writes searched parts written
  exact ⟨shown, by rw [update, if_pos asked, writes]⟩

/-- How an update ends: without the directory of the header, without a search, with a header that is
left as it is, or cannot be made, or cannot be written, and with one that is written. -/
inductive Ending (options : Options) (headerPath top : Path) (world : World) :
    Result Nat → World → Prop where
  | blocked {middle : World} {error : FileError}
      (made : (Host.makeDirectories headerPath.parent : Session _) world = (.error error, middle)) :
      Ending options headerPath top world (.error (.file error headerPath.parent)) middle
  | lost {middle : World} {failure : Failure} {shown : List Text}
      (made : (Host.makeDirectories headerPath.parent : Session _) world = (.ok (), middle))
      (found : middle.finding headerPath (listing middle.tree middle.current top) =
        .error failure) :
      Ending options headerPath top world (.error failure) { middle with shown }
  | skipped {middle : World} {finding : Finding} {shown : List Text}
      (made : (Host.makeDirectories headerPath.parent : Session _) world = (.ok (), middle))
      (found : middle.finding headerPath (listing middle.tree middle.current top) = .ok finding)
      (unasked : (finding.outdated || options.force) = false) :
      Ending options headerPath top world (.ok 0)
        { middle with shown := shown ++ [skippedLine headerPath] }
  | failed {middle : World} {finding : Finding} {failure : Failure} {answer : Result Nat}
      {shown : List Text}
      (made : (Host.makeDirectories headerPath.parent : Session _) world = (.ok (), middle))
      (found : middle.finding headerPath (listing middle.tree middle.current top) = .ok finding)
      (asked : (finding.outdated || options.force) = true)
      (parts : middle.header options.settings finding.shaders = .error failure)
      (status : failure.status = answer) :
      Ending options headerPath top world answer { middle with shown }
  | unwritten {middle : World} {finding : Finding} {text : Text} {error : FileError}
      {shown : List Text}
      (made : (Host.makeDirectories headerPath.parent : Session _) world = (.ok (), middle))
      (found : middle.finding headerPath (listing middle.tree middle.current top) = .ok finding)
      (asked : (finding.outdated || options.force) = true)
      (parts : middle.header options.settings finding.shaders = .ok text)
      (refused : middle.tree.write middle.now middle.current headerPath (Text.toBytes text) =
        .error error) :
      Ending options headerPath top world (.error (.file error headerPath)) { middle with shown }
  | wrote {middle : World} {finding : Finding} {text : Text} {tree : FileTree} {shown : List Text}
      (made : (Host.makeDirectories headerPath.parent : Session _) world = (.ok (), middle))
      (found : middle.finding headerPath (listing middle.tree middle.current top) = .ok finding)
      (asked : (finding.outdated || options.force) = true)
      (parts : middle.header options.settings finding.shaders = .ok text)
      (written : middle.tree.write middle.now middle.current headerPath (Text.toBytes text) =
        .ok tree) :
      Ending options headerPath top world (.ok 0)
        { middle with tree, shown := shown ++ [wroteLine headerPath] }

theorem update_ends (options : Options) (headerPath top : Path) (world : World) :
    Ending options headerPath top world
      ((update options headerPath top : Session _) world).1
      ((update options headerPath top : Session _) world).2 := by
  rcases made : (Host.makeDirectories headerPath.parent : Session _) world with ⟨answer, middle⟩
  cases answer with
  | error error =>
    rw [update, bind_apply, made]
    exact .blocked made
  | ok =>
    cases found : middle.finding headerPath (listing middle.tree middle.current top) with
    | error failure =>
      obtain ⟨shown, answered⟩ := (answers_find headerPath top middle).apply
      rw [update, bind_apply, made]
      simp only [bind_apply, answered, found]
      exact .lost made found
    | ok finding =>
      obtain ⟨searched, -, ends⟩ := update_found options made found
      rw [ends]
      split
      · next asked =>
        cases parts : middle.header options.settings finding.shaders with
        | error failure =>
          obtain ⟨shown, fails⟩ := regenerate_fails searched parts
          rw [fails]
          exact .failed made found asked parts rfl
        | ok text =>
          cases written : middle.tree.write middle.now middle.current headerPath
              (Text.toBytes text) with
          | error error =>
            obtain ⟨shown, refuses⟩ := regenerate_refused searched parts written
            rw [refuses]
            exact .unwritten made found asked parts written
          | ok tree =>
            obtain ⟨shown, writes⟩ := regenerate_writes searched parts written
            rw [writes]
            exact .wrote made found asked parts written
      · next unasked => exact .skipped made found (Bool.eq_false_of_not_eq_true unasked)

/-- An update that succeeds has left the header as it is or written it. -/
theorem update_ok (run : (update options headerPath top : Session _) world = (.ok 0, after)) :
    ∃ middle finding,
      (Host.makeDirectories headerPath.parent : Session _) world = (.ok (), middle) ∧
      middle.finding headerPath (listing middle.tree middle.current top) = .ok finding ∧
      ((finding.outdated || options.force) = false ∧
        (∃ shown, after = { middle with shown := shown ++ [skippedLine headerPath] }) ∨
      (finding.outdated || options.force) = true ∧
        ∃ text tree shown, middle.header options.settings finding.shaders = .ok text ∧
          middle.tree.write middle.now middle.current headerPath (Text.toBytes text) = .ok tree ∧
          after = { middle with tree, shown := shown ++ [wroteLine headerPath] }) := by
  have ends := update_ends options headerPath top world
  rw [run] at ends
  cases ends with
  | skipped made found unasked =>
    exact ⟨_, _, made, found, .inl ⟨unasked, _, rfl⟩⟩
  | failed made found asked parts status => exact absurd status (Failure.status_ne_zero _)
  | wrote made found asked parts written =>
    exact ⟨_, _, made, found, .inr ⟨asked, _, _, _, parts, written, rfl⟩⟩

variable {root shaders : Path} {arguments : List Text}

/-- A run whose directory is there is an update. -/
theorem run_apply (stated : Options.ofArguments arguments = .ok options)
    (placed : options.shaders? root = some shaders)
    (there : world.tree.isDirectory world.current (options.directory shaders) = true) :
    (run root arguments : Session _) world =
      (update options (options.header root) (options.directory shaders) : Session _) world := by
  have directory : (Host.isDirectory (options.directory shaders) : Session _) world =
      (true, world) := congrArg (·, world) there
  rw [run, stated]
  simp only [carryOut, placed, bind_apply, directory, if_true]

/-- A run writes a header that is outdated or asked for. -/
theorem run_writes {tree : FileTree} (stated : Options.ofArguments arguments = .ok options)
    (placed : options.shaders? root = some shaders)
    (there : world.tree.isDirectory world.current (options.directory shaders) = true)
    (parent : world.tree.isDirectory world.current (options.header root).parent = true)
    (found : world.finding (options.header root)
      (listing world.tree world.current (options.directory shaders)) = .ok finding)
    (asked : (finding.outdated || options.force) = true)
    (parts : world.header options.settings finding.shaders = .ok text)
    (written : world.tree.write world.now world.current (options.header root)
      (Text.toBytes text) = .ok tree) :
    ∃ shown, (run root arguments : Session _) world =
      (.ok 0, { world with tree, shown := shown ++ [wroteLine (options.header root)] }) := by
  obtain ⟨shown, writes⟩ :=
    update_writes (makeDirectories_of_isDirectory parent) found asked parts written
  exact ⟨shown, (run_apply stated placed there).trans writes⟩

/-- A run leaves a header as it is that is neither outdated nor asked for. -/
theorem run_skips (stated : Options.ofArguments arguments = .ok options)
    (placed : options.shaders? root = some shaders)
    (there : world.tree.isDirectory world.current (options.directory shaders) = true)
    (parent : world.tree.isDirectory world.current (options.header root).parent = true)
    (found : world.finding (options.header root)
      (listing world.tree world.current (options.directory shaders)) = .ok finding)
    (unasked : (finding.outdated || options.force) = false) :
    ∃ shown, world.shown <+: shown ∧ (run root arguments : Session _) world =
      (.ok 0, { world with shown := shown ++ [skippedLine (options.header root)] }) := by
  obtain ⟨shown, more, update⟩ :=
    update_found options (makeDirectories_of_isDirectory parent) found
  refine ⟨shown, more, (run_apply stated placed there).trans ?_⟩
  rw [update, unasked, if_neg Bool.false_ne_true]

/-- A run that succeeds has found its directory and updated the header. -/
theorem run_ok (stated : Options.ofArguments arguments = .ok options)
    (placed : options.shaders? root = some shaders)
    (success : (run root arguments : Session _) world = (.ok 0, after)) :
    world.tree.isDirectory world.current (options.directory shaders) = true ∧
      (update options (options.header root) (options.directory shaders) : Session _) world =
        (.ok 0, after) := by
  cases there : world.tree.isDirectory world.current (options.directory shaders) with
  | true => exact ⟨rfl, run_apply stated placed there ▸ success⟩
  | false =>
    have directory : (Host.isDirectory (options.directory shaders) : Session _) world =
        (false, world) := congrArg (·, world) there
    rw [run, stated] at success
    simp only [carryOut, placed, bind_apply, directory, Bool.false_eq_true, if_false] at success
    cases success

end Command

end ShaderInterface
