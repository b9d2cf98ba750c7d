import Mathlib.Data.List.Flatten
import ShaderInterface.Proofs.Command.Arguments
import ShaderInterface.Proofs.Command.Relisting
import ShaderInterface.Proofs.Header.Completeness

set_option autoImplicit false

/-!
When a header is left as it is. An update goes by the times of the files that it finds, so that
edits and new files are always noticed. A shader that is gone leaves no such trace: its part stays
in the header until something else is written.
-/
namespace ShaderInterface.Command

open FileTree (Edited Evolved Changed)
open Session

variable {world middle after : World} {headerPath top : Path} {finding : Finding}
  {settings : Settings} {content : ByteArray} {limit : Int}

/-- Where there is a header, a file is no newer exactly when it has a time that is no later. -/
theorem isNewer_eq_false_iff {source : Path}
    (dated : world.tree.modified world.current headerPath = .ok limit) :
    world.isNewer source headerPath = .ok false ↔
      ∃ time, world.tree.modified world.current source = .ok time ∧ ¬limit < time := by
  rw [World.isNewer, if_pos (FileTree.isPresent_of_modified dated), dated]
  cases world.tree.modified world.current source with
  | error error => simp
  | ok time => simp

/-- If a search tells that the header is not outdated, every shader is in a file as old as it. -/
theorem stale_of_not_outdated (wellFormed : world.WellFormed) (written : top.IsWritten)
    (there : world.tree.isDirectory world.current top = true)
    (header : world.tree.status world.current headerPath = .ok (.file content limit))
    (found : world.finding headerPath (listing world.tree world.current top) = .ok finding)
    (current : finding.outdated = false) :
    ∀ shader ∈ world.shaders top, ∃ last content time,
      world.tree.locate .status world.current shader.path = .ok last ∧
        world.tree.look last = some (.file content time) ∧ ¬limit < time := by
  intro shader member
  obtain ⟨file, listed, known⟩ := mem_shaders_iff.1 member
  obtain ⟨place, located, inside⟩ := FileTree.isDirectory_eq_true_iff.1 there
  obtain ⟨time, dated, old⟩ :=
    (isNewer_eq_false_iff (FileTree.modified_eq_ok_iff.2 ⟨_, header, rfl⟩)).1
      ((finding_ok found).2 current file listed)
  obtain ⟨last, bytes, reached, leads⟩ :=
    file_of_modified located inside wellFormed.tree written listed dated
  exact ⟨last, bytes, time, path_of_shaderOf? known ▸ reached, leads, old⟩

theorem part_congr {shader : Shader}
    (same : after.tree.read after.current shader.path =
      middle.tree.read middle.current shader.path) :
    after.part settings shader = middle.part settings shader := by
  simp only [World.part, World.interface, World.text, same]

theorem canRead_of_part {shader : Shader} {part : Text}
    (made : world.part settings shader = .ok part) : world.canRead shader.path = true := by
  obtain ⟨interface, known, -⟩ := Fallible.bind_eq_ok_iff.1 made
  obtain ⟨source, read, -⟩ := Fallible.bind_eq_ok_iff.1 known
  rw [World.text] at read
  rw [World.canRead]
  cases bytes : world.tree.read world.current shader.path with
  | error error =>
    rw [bytes] at read
    cases read
  | ok content => rfl

theorem part_ne_nil {shader : Shader} {part : Text}
    (made : world.part settings shader = .ok part) : part ≠ [] := by
  obtain ⟨interface, -, written⟩ := Fallible.bind_eq_ok_iff.1 made
  cases text : Header.shaderPart settings.primitives shader.name interface.toDeclarations with
  | error reason =>
    rw [text] at written
    cases written
  | ok whole =>
    rw [text] at written
    cases written
    obtain ⟨texts, -, rfl⟩ := Header.shaderPart_eq_ok_iff.1 text
    exact List.cons_ne_nil _ _

/-- Parts with something in them are all kept only when nothing is left out. -/
theorem flatMap_filter_eq_iff {kept : Shader → Bool} {part : Shader → Text}
    {shaders : List Shader} (some : ∀ shader ∈ shaders, part shader ≠ []) :
    (shaders.filter kept).flatMap part = shaders.flatMap part ↔
      ∀ shader ∈ shaders, kept shader = true := by
  induction shaders with
  | nil => simp
  | cons shader rest ih =>
    obtain ⟨first, others⟩ := List.forall_mem_cons.1 some
    rw [List.forall_mem_cons, List.flatMap_cons]
    by_cases left : kept shader = true
    · rw [List.filter_cons_of_pos left, List.flatMap_cons, List.append_cancel_left_eq, ih others]
      simp [left]
    · -- what is kept of the rest is no longer than the rest
      rw [List.filter_cons_of_neg left]
      refine iff_of_false (fun same => ?_) fun all => left all.1
      have within := ((List.filter_sublist (p := kept) (l := rest)).flatMap part).length_le
      rw [same, List.length_append] at within
      exact first (List.eq_nil_of_length_eq_zero (by omega))

section

variable {place : Location} {text : Text} (wellFormed : middle.WellFormed)
  (wellFormedAfter : after.WellFormed) (here : after.current = middle.current)
  (changed : Changed middle.tree place (some (.file content limit)) after.tree)
  (outside : ¬middle.tree.HasDirectory place)
  (solid : ∀ target, middle.tree.look place ≠ some (.link target))
include here changed outside solid

theorem canRead_of_written {path : Path} (readable : middle.canRead path = true) :
    after.canRead path = true := by
  obtain ⟨last, bytes, time, reached, there⟩ := World.canRead_iff.1 readable
  have reachedAfter : after.tree.locate .status after.current path = .ok last := by
    rwa [here, changed.locate_iff outside solid]
  by_cases same : last = place
  · exact World.canRead_iff.2 ⟨last, content, limit, reachedAfter,
      (changed last).trans (if_pos same)⟩
  · exact World.canRead_iff.2 ⟨last, bytes, time, reachedAfter,
      (changed last).trans ((if_neg same).trans there)⟩

include wellFormedAfter

/-- A shader that does not lead to the file just written is one of those found before. -/
theorem mem_shaders_of_written (written : top.IsWritten)
    (there : middle.tree.isDirectory middle.current top = true) {shader : Shader}
    (member : shader ∈ after.shaders top)
    (apart : after.tree.locate .status after.current shader.path ≠ .ok place) :
    shader ∈ middle.shaders top := by
  obtain ⟨⟨text, name⟩, listed, known⟩ := mem_shaders_iff.1 member
  obtain ⟨start, located, inside⟩ := FileTree.isDirectory_eq_true_iff.1 there
  have locatedAfter : after.tree.locate .status after.current top = .ok start := by
    rwa [here, changed.locate_iff outside solid]
  obtain ⟨steps, below, rfl, searched, present, plain⟩ :=
    (mem_listing_iff locatedAfter ((changed.hasDirectory_iff outside).2 inside)).1 listed
  have path := path_of_shaderOf? known
  rw [pathOf_below wellFormedAfter.tree written present] at path
  -- the file written is no shader, so what was found was there before
  have elsewhere : start ++ steps ++ [name] ≠ place := by
    intro same
    have reached := locate_below locatedAfter wellFormedAfter.tree
      (show after.tree.look (start ++ steps ++ [name]) = _ from (changed _).trans (if_pos same))
      nofun
    rw [path, reached, same] at apart
    exact apart rfl
  rw [changed, if_neg elsewhere] at present
  rw [changed.hasDirectory_iff outside] at below
  refine mem_shaders_iff.2 ⟨_, (mem_listing_iff located inside).2
    ⟨steps, below, rfl, searched, present, ?_⟩, known⟩
  rw [← Bool.not_eq_true] at plain ⊢
  rwa [changed.isDirectory_iff outside solid] at plain

include wellFormed

/-- Right after a header was written, a search finds the shaders that it was written from, with the
same parts, unless the header itself is one of them. -/
theorem shaders_of_written (settings : Settings) (written : top.IsWritten)
    (there : middle.tree.isDirectory middle.current top = true)
    (readable : ∀ shader ∈ middle.shaders top, middle.canRead shader.path = true)
    (apart : ∀ shader ∈ after.shaders top,
      after.tree.locate .status after.current shader.path ≠ .ok place) :
    after.shaders top = middle.shaders top ∧ ∀ shader ∈ after.shaders top,
      after.part settings shader = middle.part settings shader := by
  have evolved : Evolved (fun elsewhere _ => elsewhere = place) middle.tree after.tree :=
    (Evolved.refl middle.tree).wrote changed outside rfl
  have stale : ∀ shader ∈ after.shaders top, ∃ last bytes time,
      after.tree.locate .status after.current shader.path = .ok last ∧
        after.tree.look last = some (.file bytes time) ∧ ¬last = place := by
    intro shader member
    have before := mem_shaders_of_written wellFormedAfter here changed outside solid written there
      member (apart shader member)
    obtain ⟨last, bytes, time, reached, leads⟩ :=
      World.canRead_iff.1 (readable shader before)
    have reachedAfter : after.tree.locate .status after.current shader.path = .ok last := by
      rwa [here, changed.locate_iff outside solid]
    have elsewhere : last ≠ place := fun same =>
      apart shader member (reachedAfter.trans (congrArg Except.ok same))
    exact ⟨last, bytes, time, reachedAfter, (changed last).trans ((if_neg elsewhere).trans leads),
      elsewhere⟩
  have thereAfter : after.tree.isDirectory after.current top = true := by
    rwa [here, changed.isDirectory_iff outside solid]
  have same : after.shaders top = middle.shaders top := by
    rw [shaders_later evolved here wellFormed wellFormedAfter written there thereAfter stale]
    exact List.filter_eq_self.2 fun shader member =>
      canRead_of_written here changed outside solid (readable shader member)
  refine ⟨same, fun shader member => part_congr ?_⟩
  obtain ⟨last, bytes, time, reached, leads, elsewhere⟩ := stale shader member
  exact read_eq evolved here reached leads elsewhere (readable shader (same ▸ member))

end

/-- A file just written is there, and so is every directory that was there. -/
theorem file_written (wellFormed : middle.WellFormed) (writtenHeader : headerPath.IsWritten)
    (done : middle.tree.write middle.now middle.current headerPath content = .ok after.tree)
    (here : after.current = middle.current) :
    after.WellFormed ∧
      after.tree.status after.current headerPath = .ok (.file content middle.now) ∧
      ∀ path, middle.tree.isDirectory middle.current path = true →
        after.tree.isDirectory after.current path = true := by
  obtain ⟨place, reached, outside, solid, changed, wellFormedTree⟩ :=
    wellFormed.tree.write_ok wellFormed.current writtenHeader done
  have inside : after.tree.HasDirectory after.current :=
    here ▸ changed.hasDirectory (absurd · outside) wellFormed.current
  rw [here] at inside ⊢
  exact ⟨⟨wellFormedTree, here ▸ inside⟩, changed.status_eq outside solid reached,
    fun path => (changed.isDirectory_iff outside solid).2⟩

/-- A header just written has the parts of the shaders that a search finds now, unless the header
itself is one of them. -/
theorem header_written {text : Text} (wellFormed : middle.WellFormed) (written : top.IsWritten)
    (writtenHeader : headerPath.IsWritten)
    (there : middle.tree.isDirectory middle.current top = true)
    (parts : middle.header settings (middle.shaders top) = .ok text)
    (done : middle.tree.write middle.now middle.current headerPath (Text.toBytes text) =
      .ok after.tree)
    (here : after.current = middle.current)
    (apart : ∀ shader ∈ after.shaders top,
      after.tree.locate .status after.current shader.path ≠
        after.tree.locate .status after.current headerPath) :
    after.WellFormed ∧ after.tree.isDirectory after.current top = true ∧
      ∃ part : Shader → Text,
        (∀ shader ∈ after.shaders top, after.part settings shader = .ok (part shader)) ∧
        after.tree.status after.current headerPath = .ok (.file (Text.toBytes
          (Header.preamble ++ (after.shaders top).flatMap part)) middle.now) := by
  obtain ⟨place, reached, outside, solid, changed, -⟩ :=
    wellFormed.tree.write_ok wellFormed.current writtenHeader done
  obtain ⟨wellFormedAfter, status, directories⟩ :=
    file_written wellFormed writtenHeader done here
  have reachedAfter : after.tree.locate .status after.current headerPath = .ok place := by
    rwa [here, changed.locate_iff outside solid]
  have made := header_ok parts
  obtain ⟨same, partsSame⟩ := shaders_of_written wellFormed wellFormedAfter here changed outside
    solid settings written there
    (fun shader member => canRead_of_part (made shader member).choose_spec)
    fun shader member => reachedAfter ▸ apart shader member
  have known : ∀ shader ∈ middle.shaders top, middle.part settings shader =
      .ok ((middle.part settings shader).toOption.getD []) := by
    intro shader member
    obtain ⟨part, known⟩ := made shader member
    rw [known]
    rfl
  obtain rfl : Header.preamble ++ (middle.shaders top).flatMap _ = text :=
    Except.ok.inj ((header_eq known).symm.trans parts)
  refine ⟨wellFormedAfter, directories top there, _,
    fun shader member => (partsSame shader member).trans (known shader (same ▸ member)), ?_⟩
  rwa [same]

/-- A run writes the header at the time `limit`. Files are then written later than that, directories
made, and files and links removed, until a run with the same arguments leaves the header as it
is. -/
structure Skipped (root : Path) (arguments : List Text) (headerPath : Path) (limit : Int)
    (before after edited later : World) : Prop where
  wrote : (run root arguments : Session _) before = (.ok 0, after)
  reported : after.shown.getLast? = some (wroteLine headerPath)
  dated : after.tree.modified after.current headerPath = .ok limit
  edits : Edited after.tree after.current limit edited.tree
  stayed : edited.current = after.current
  skipped : (run root arguments : Session _) edited = (.ok 0, later)
  reportedLater : later.shown.getLast? = some (skippedLine headerPath)

/-- A forced run would succeed and leave the header as it is. -/
def UpToDate (root : Path) (arguments : List Text) (headerPath : Path) (world : World) : Prop :=
  ∃ forced, (run root (arguments ++ [("--force" : Text)]) : Session _) world = (.ok 0, forced) ∧
    forced.tree.read forced.current headerPath = world.tree.read world.current headerPath

theorem upToDate_iff {root : Path} {arguments : List Text} {forced : World}
    (runs : (run root (arguments ++ [("--force" : Text)]) : Session _) world = (.ok 0, forced)) :
    UpToDate root arguments headerPath world ↔
      forced.tree.read forced.current headerPath = world.tree.read world.current headerPath := by
  refine ⟨?_, fun same => ⟨forced, runs, same⟩⟩
  rintro ⟨again, rerun, same⟩
  cases runs.symm.trans rerun
  exact same

theorem not_upToDate {root : Path} {arguments : List Text} {forced : World} {text : Text}
    (other : Text)
    (runs : (run root (arguments ++ [("--force" : Text)]) : Session _) world = (.ok 0, forced))
    (content : forced.tree.read forced.current headerPath = .ok (Text.toBytes text))
    (there : world.tree.read world.current headerPath = .ok (Text.toBytes other))
    (differs : text ≠ other) : ¬UpToDate root arguments headerPath world := by
  rwa [upToDate_iff runs, content, there, Except.ok.injEq, Text.toBytes_inj]

section Runs

variable {root shaders : Path} {arguments : List Text} {options : Options}
  {before edited later : World}
  (rooted : root.IsWritten) (stated : Options.ofArguments arguments = .ok options)
  (placed : options.shaders? root = some shaders)
include stated placed

/-- A run that leaves the header as it is changes nothing, and its search has found no file that is
newer than the header. -/
theorem run_skipped (wellFormed : edited.WellFormed)
    (header : edited.tree.status edited.current (options.header root) = .ok (.file content limit))
    (success : (run root arguments : Session _) edited = (.ok 0, later))
    (reported : later.shown.getLast? = some (skippedLine (options.header root))) :
    (∃ shown, later = { edited with shown }) ∧
      edited.tree.isDirectory edited.current (options.directory shaders) = true ∧
      ∃ finding, edited.finding (options.header root)
        (listing edited.tree edited.current (options.directory shaders)) = .ok finding ∧
        finding.outdated = false := by
  obtain ⟨there, update⟩ := run_ok stated placed success
  have parent := FileTree.isDirectory_parent header wellFormed.current
  obtain ⟨middle, finding, made, found, ends⟩ := update_ok update
  rw [makeDirectories_of_isDirectory parent] at made
  cases made
  rcases ends with ⟨unasked, shown, rfl⟩ | ⟨-, text, tree, shown, -, -, rfl⟩
  · exact ⟨⟨_, rfl⟩, there, finding, found, (Bool.or_eq_false_iff.1 unasked).1⟩
  · rw [List.getLast?_concat, Option.some.injEq] at reported
    exact absurd reported (wroteLine_ne_skippedLine _ _)

include rooted

/-- A run that writes the header writes the parts of the shaders that a search finds as soon as the
directories of the header are there. -/
theorem run_wrote_file (wellFormed : before.WellFormed)
    (success : (run root arguments : Session _) before = (.ok 0, after))
    (reported : after.shown.getLast? = some (wroteLine (options.header root))) :
    ∃ (middle : World) (text : Text), middle.WellFormed ∧
      middle.tree.isDirectory middle.current (options.directory shaders) = true ∧
      middle.header options.settings (middle.shaders (options.directory shaders)) = .ok text ∧
      middle.tree.write middle.now middle.current (options.header root) (Text.toBytes text) =
        .ok after.tree ∧ after.current = middle.current := by
  have writtenHeader := (Options.ofArguments_isWritten stated).header rooted
  obtain ⟨there, update⟩ := run_ok stated placed success
  obtain ⟨middle, finding, made, found, ends⟩ := update_ok update
  rcases ends with ⟨-, shown, rfl⟩ | ⟨-, text, tree, shown, parts, done, rfl⟩
  · rw [List.getLast?_concat, Option.some.injEq] at reported
    exact absurd reported.symm (wroteLine_ne_skippedLine _ _)
  · have raised := makeDirectories_raised writtenHeader.parent wellFormed
    rw [made] at raised
    rw [(finding_ok found).1] at parts
    exact ⟨middle, text, raised.wellFormed, raised.isDirectory there, parts, done, rfl⟩

/-- A run that writes the header writes the parts of the shaders that a search finds right after it,
unless the header itself is one of them. -/
theorem run_wrote (wellFormed : before.WellFormed)
    (success : (run root arguments : Session _) before = (.ok 0, after))
    (reported : after.shown.getLast? = some (wroteLine (options.header root)))
    (apart : ∀ shader ∈ after.shaders (options.directory shaders),
      after.tree.locate .status after.current shader.path ≠
        after.tree.locate .status after.current (options.header root)) :
    after.WellFormed ∧ after.tree.isDirectory after.current (options.directory shaders) = true ∧
      ∃ part : Shader → Text, (∀ shader ∈ after.shaders (options.directory shaders),
        after.part options.settings shader = .ok (part shader)) ∧
      ∃ time, after.tree.status after.current (options.header root) = .ok (.file (Text.toBytes
        (Header.preamble ++ (after.shaders (options.directory shaders)).flatMap part)) time) := by
  have plain := Options.ofArguments_isWritten stated
  obtain ⟨middle, text, wellFormedThen, there, parts, done, here⟩ :=
    run_wrote_file rooted stated placed wellFormed success reported
  obtain ⟨wellFormedAfter, thereAfter, part, known, status⟩ :=
    header_written wellFormedThen (plain.directory rooted placed) (plain.header rooted) there
      parts done here apart
  exact ⟨wellFormedAfter, thereAfter, part, known, _, status⟩

/-- A run that is forced to writes the parts of the shaders that a search finds. -/
theorem run_forced (world : World) {part : Shader → Text} (wellFormed : world.WellFormed)
    (there : world.tree.isDirectory world.current (options.directory shaders) = true)
    (header : world.tree.status world.current (options.header root) = .ok (.file content limit))
    (found : world.finding (options.header root)
      (listing world.tree world.current (options.directory shaders)) = .ok finding)
    (known : ∀ shader ∈ world.shaders (options.directory shaders),
      world.part options.settings shader = .ok (part shader)) :
    ∃ forced, (run root (arguments ++ [("--force" : Text)]) : Session _) world = (.ok 0, forced) ∧
      forced.tree.read forced.current (options.header root) = .ok (Text.toBytes
        (Header.preamble ++ (world.shaders (options.directory shaders)).flatMap part)) := by
  have plain := Options.ofArguments_isWritten stated
  have writtenHeader := plain.header rooted
  have parent := FileTree.isDirectory_parent header wellFormed.current
  have parts := header_eq known
  obtain ⟨next, done⟩ := FileTree.write_of_status header world.now (Text.toBytes
    (Header.preamble ++ (world.shaders (options.directory shaders)).flatMap part))
  obtain ⟨place, reached, outside, solid, changed, -⟩ :=
    wellFormed.tree.write_ok wellFormed.current writtenHeader done
  let forced : Options := { options with force := true }
  have searched : finding.shaders = world.shaders (options.directory shaders) :=
    (finding_ok found).1
  rw [← searched] at parts
  obtain ⟨shown, runs⟩ := run_writes (Options.ofArguments_append_force stated)
    (show forced.shaders? root = some shaders from placed) there parent found
    (show (finding.outdated || forced.force) = true from Bool.or_true _) parts
    (by rw [searched]; exact done)
  exact ⟨_, runs, FileTree.read_eq_ok_iff.2 ⟨_, changed.status_eq outside solid reached⟩⟩

/-- If a header has all parts and is then left as it is, a forced run writes the parts of the
shaders that can still be read, which is another header as soon as one of them is lost. -/
theorem forced_after_skip {part : Shader → Text}
    (history : Skipped root arguments (options.header root) limit before after edited later)
    (wellFormed : after.WellFormed)
    (there : after.tree.isDirectory after.current (options.directory shaders) = true)
    (known : ∀ shader ∈ after.shaders (options.directory shaders),
      after.part options.settings shader = .ok (part shader))
    (status : after.tree.status after.current (options.header root) = .ok (.file (Text.toBytes
      (Header.preamble ++ (after.shaders (options.directory shaders)).flatMap part)) limit))
    (kept : edited.tree.status edited.current (options.header root) =
      after.tree.status after.current (options.header root)) :
    ∃ forced : World,
      (run root (arguments ++ [("--force" : Text)]) : Session _) later = (.ok 0, forced) ∧
      later.tree.read later.current (options.header root) = .ok (Text.toBytes (Header.preamble ++
        (after.shaders (options.directory shaders)).flatMap part)) ∧
      forced.tree.read forced.current (options.header root) =
        .ok (Text.toBytes (Header.preamble ++ ((after.shaders (options.directory shaders)).filter
          fun shader => later.canRead shader.path).flatMap part)) ∧
      (UpToDate root arguments (options.header root) later ↔
        ∀ shader ∈ after.shaders (options.directory shaders),
          later.canRead shader.path = true) := by
  have writtenTop := (Options.ofArguments_isWritten stated).directory rooted placed
  obtain ⟨wellFormedTree, evolved⟩ := history.edits.evolved wellFormed.tree wellFormed.current
  have wellFormedEdited : edited.WellFormed :=
    ⟨wellFormedTree, history.stayed ▸ evolved.directories _ wellFormed.current⟩
  have header := kept.trans status
  obtain ⟨⟨shown, rfl⟩, thereLater, finding, found, current⟩ :=
    run_skipped stated placed wellFormedEdited header history.skipped history.reportedLater
  have stale := stale_of_not_outdated wellFormedEdited writtenTop thereLater header found current
  have remaining := shaders_later evolved history.stayed wellFormed wellFormedEdited writtenTop
    there thereLater stale
  -- what is left has the parts that it had
  have knownLater : ∀ shader ∈ edited.shaders (options.directory shaders),
      edited.part options.settings shader = .ok (part shader) := by
    intro shader member
    obtain ⟨last, bytes, time, reached, leads, old⟩ := stale shader member
    have before := known shader (List.mem_of_mem_filter (remaining ▸ member))
    rw [← before]
    exact part_congr (read_eq evolved history.stayed reached leads old (canRead_of_part before))
  obtain ⟨forced, runs, content⟩ := run_forced rooted stated placed { edited with shown }
    ⟨wellFormedEdited.tree, wellFormedEdited.current⟩ thereLater header
    ((finding_shown _ edited shown _).trans found) knownLater
  have left : edited.tree.read edited.current (options.header root) = _ :=
    FileTree.read_eq_ok_iff.2 ⟨_, header⟩
  have listed : World.shaders { edited with shown } (options.directory shaders) = _ := remaining
  rw [listed] at content
  refine ⟨forced, runs, left, content, ?_⟩
  rw [upToDate_iff runs, content, left, Except.ok.injEq, Text.toBytes_inj,
    List.append_cancel_left_eq]
  exact flatMap_filter_eq_iff fun shader member => part_ne_nil (known shader member)

/-- A run that leaves a header as it is leaves the parts of the shaders that were found right after
it was written. A forced run would write the parts of those that can still be read, which is the
same header exactly when none is lost. The edits do not concern the header itself, which is none of
the shaders. -/
theorem run_skipped_header (wellFormed : before.WellFormed)
    (history : Skipped root arguments (options.header root) limit before after edited later)
    (kept : edited.tree.status edited.current (options.header root) =
      after.tree.status after.current (options.header root))
    (apart : ∀ shader ∈ after.shaders (options.directory shaders),
      after.tree.locate .status after.current shader.path ≠
        after.tree.locate .status after.current (options.header root)) :
    ∃ (part : Shader → Text) (forced : World),
      (∀ shader ∈ after.shaders (options.directory shaders),
        after.part options.settings shader = .ok (part shader)) ∧
      (run root (arguments ++ [("--force" : Text)]) : Session _) later = (.ok 0, forced) ∧
      later.tree.read later.current (options.header root) = .ok (Text.toBytes (Header.preamble ++
        (after.shaders (options.directory shaders)).flatMap part)) ∧
      forced.tree.read forced.current (options.header root) =
        .ok (Text.toBytes (Header.preamble ++ ((after.shaders (options.directory shaders)).filter
          fun shader => later.canRead shader.path).flatMap part)) ∧
      (UpToDate root arguments (options.header root) later ↔
        ∀ shader ∈ after.shaders (options.directory shaders),
          later.canRead shader.path = true) := by
  obtain ⟨wellFormedAfter, there, part, known, time, status⟩ :=
    run_wrote rooted stated placed wellFormed history.wrote history.reported apart
  obtain rfl : time = limit := by
    have dated := history.dated
    rw [FileTree.modified, status] at dated
    exact Except.ok.inj dated
  obtain ⟨forced, ends⟩ :=
    forced_after_skip rooted stated placed history wellFormedAfter there known status kept
  exact ⟨part, forced, known, ends⟩

end Runs

section Gallery

def plainSource : Text :=
  ['\n'].intercalate (["fn vs_main() \x7b", "fn fs_main() \x7b"].map String.toList)

def plain : Interface := ⟨⟨∅, ∅, ∅, ∅⟩, [], []⟩

def plainPart (shader : Shader) : Text :=
  (Header.shaderPart Primitive.known shader.name plain.toDeclarations).toOption.getD []

/-- A project with the same shader in two files. -/
def gallery : World where
  tree := ⟨[(["p"], .directory 0), (["p", "gen"], .directory 0), (["p", "shaders"], .directory 0),
    (["p", "shaders", "a.wgsl"], .file (Text.toBytes plainSource) 1),
    (["p", "shaders", "b.wgsl"], .file (Text.toBytes plainSource) 1)], by decide⟩
  current := []
  now := 9
  shown := []

def galleryRoot : Path := ⟨1, ["p"]⟩

def galleryTop : Path := ⟨1, ["p", "shaders"]⟩

/-- What the command is asked for, the header at a path or where it goes by itself. -/
def galleryOptions (output? : Option Path) : Options := { Options.standard with output? }

def galleryFile (name : Text) : Text × Text := ("/p/shaders", name ++ ".wgsl")

def galleryShader (name : Text) : Shader :=
  ⟨pathOf (galleryFile name), (pathOf (galleryFile name)).text, name⟩

def galleryHeader : Text :=
  Header.preamble ++ [galleryShader "a", galleryShader "b"].flatMap plainPart

theorem gallery_wellFormed : gallery.WellFormed where
  tree := FileTree.wellFormed_of_entries (by decide) (by decide) (by decide)
  current := FileTree.hasDirectory_root

theorem gallery_placed {output? : Option Path} :
    (galleryOptions output?).shaders? galleryRoot = some galleryTop := rfl

theorem part_of_plain {world : World} {output? : Option Path} {shader : Shader}
    (interface : (Interface.ofSource (galleryOptions none).settings shader.written
      (Text.unifyLineEnds plainSource)).result.toOption = some plain)
    (stored : world.tree.read world.current shader.path = .ok (Text.toBytes plainSource)) :
    world.part (galleryOptions output?).settings shader = .ok (plainPart shader) := by
  have known : world.interface (galleryOptions output?).settings shader = .ok plain := by
    rw [World.interface_of_read stored]
    exact congrArg (Except.mapError _) (Fallible.eq_ok_of_toOption interface)
  rw [World.part, known]
  rfl

theorem part_plain {world : World} {output? : Option Path} {name : Text}
    (named : name ∈ [("a" : Text), "b"])
    (stored : world.tree.read world.current (galleryShader name).path =
      .ok (Text.toBytes plainSource)) :
    world.part (galleryOptions output?).settings (galleryShader name) =
      .ok (plainPart (galleryShader name)) := by
  have interfaces : ∀ name ∈ [("a" : Text), "b"], (Interface.ofSource (galleryOptions none).settings
      (galleryShader name).written (Text.unifyLineEnds plainSource)).result.toOption =
      some plain := by
    unfold plainSource
    simp only [List.map]
    -- spelled out, the literals are cheap to compute with
    repeat rw [String.toList_ofList]
    decide +kernel
  exact part_of_plain (interfaces name named) stored

theorem shaderOf?_galleryFile : shaderOf? (galleryFile "a") = some (galleryShader "a") ∧
    shaderOf? (galleryFile "b") = some (galleryShader "b") := by decide

theorem listing_gallery : listing gallery.tree gallery.current galleryTop =
    [galleryFile "a", galleryFile "b"] := by
  rw [listing_of_sorted (by decide) (by decide)]
  rfl

variable {output? : Option Path} {arguments : List Text} {tree edited : FileTree}

/-- A first run with the header anywhere writes it. -/
theorem gallery_wrote (stated : Options.ofArguments arguments = .ok (galleryOptions output?))
    (absent : gallery.tree.isPresent gallery.current
      ((galleryOptions output?).header galleryRoot) = false)
    (parent : gallery.tree.isDirectory gallery.current
      ((galleryOptions output?).header galleryRoot).parent = true)
    (written : gallery.tree.write gallery.now gallery.current
      ((galleryOptions output?).header galleryRoot) (Text.toBytes galleryHeader) = .ok tree) :
    ∃ shown, (run galleryRoot arguments : Session _) gallery = (.ok 0, { gallery with
      tree := tree
      shown := shown ++ [wroteLine ((galleryOptions output?).header galleryRoot)] }) := by
  have found : gallery.finding ((galleryOptions output?).header galleryRoot)
      (listing gallery.tree gallery.current galleryTop) =
      .ok ⟨[galleryShader "a", galleryShader "b"], true⟩ := by
    rw [listing_gallery]
    simp only [World.finding, World.isNewer, absent, shaderOf?_galleryFile]
    rfl
  have parts : gallery.header (galleryOptions output?).settings
      [galleryShader "a", galleryShader "b"] = .ok galleryHeader := by
    apply header_eq
    simp only [List.forall_mem_cons, List.not_mem_nil, false_imp_iff, implies_true, and_true]
    exact ⟨part_plain (by simp) rfl, part_plain (by simp) rfl⟩
  have there : gallery.tree.isDirectory gallery.current galleryTop = true := rfl
  exact run_writes stated gallery_placed there parent found rfl parts written

/-- A further run leaves the header as it is when edits leave no newer file. -/
theorem gallery_skipped (output? : Option Path) {finding : Finding}
    (stated : Options.ofArguments arguments = .ok (galleryOptions output?))
    (absent : gallery.tree.isPresent gallery.current
      ((galleryOptions output?).header galleryRoot) = false)
    (parent : gallery.tree.isDirectory gallery.current
      ((galleryOptions output?).header galleryRoot).parent = true)
    (written : gallery.tree.write gallery.now gallery.current
      ((galleryOptions output?).header galleryRoot) (Text.toBytes galleryHeader) = .ok tree)
    (dated : tree.modified gallery.current ((galleryOptions output?).header galleryRoot) = .ok 9)
    (edits : Edited tree gallery.current 9 edited)
    (there : edited.isDirectory gallery.current galleryTop = true)
    (parentLater : edited.isDirectory gallery.current
      ((galleryOptions output?).header galleryRoot).parent = true)
    (found : World.finding { gallery with tree := edited }
      ((galleryOptions output?).header galleryRoot)
      (listing edited gallery.current galleryTop) = .ok finding)
    (old : finding.outdated = false) :
    ∃ first second, Skipped galleryRoot arguments ((galleryOptions output?).header galleryRoot) 9
      gallery { gallery with tree := tree, shown := first } { gallery with tree := edited }
      { gallery with tree := edited, shown := second } := by
  obtain ⟨first, wrote⟩ := gallery_wrote stated absent parent written
  obtain ⟨second, -, skipped⟩ := run_skips stated gallery_placed there parentLater found
    (show (finding.outdated || false) = false by rw [old]; rfl)
  exact ⟨_, _, wrote, List.getLast?_concat, dated, edits, rfl, skipped, List.getLast?_concat⟩

/-- A forced run writes the shaders that are left. -/
theorem gallery_forced (output? : Option Path) (arguments : List Text) {finding : Finding}
    {content : ByteArray} {time : Int}
    (stated : Options.ofArguments arguments = .ok (galleryOptions output?))
    (wellFormed : edited.WellFormed)
    (there : edited.isDirectory gallery.current galleryTop = true)
    (header : edited.status gallery.current ((galleryOptions output?).header galleryRoot) =
      .ok (.file content time))
    (found : World.finding { gallery with tree := edited }
      ((galleryOptions output?).header galleryRoot)
      (listing edited gallery.current galleryTop) = .ok finding)
    (known : ∀ shader ∈ finding.shaders, World.part { gallery with tree := edited }
      (galleryOptions output?).settings shader = .ok (plainPart shader)) (shown : List Text) :
    ∃ forced, (run galleryRoot (arguments ++ [("--force" : Text)]) : Session _)
        { gallery with tree := edited, shown } = (.ok 0, forced) ∧
      forced.tree.read forced.current ((galleryOptions output?).header galleryRoot) =
        .ok (Text.toBytes (Header.preamble ++ finding.shaders.flatMap plainPart)) := by
  have listed : finding.shaders = World.shaders { gallery with tree := edited } galleryTop :=
    (finding_ok found).1
  rw [listed] at known ⊢
  exact run_forced (Path.ofText_isWritten "/p") stated gallery_placed
    { gallery with tree := edited, shown } ⟨wellFormed, FileTree.hasDirectory_root⟩ there header
    ((finding_shown _ { gallery with tree := edited } shown _).trans found) known

def galleryWith (headerPath : Path) : FileTree :=
  (gallery.tree.write 9 [] headerPath (Text.toBytes galleryHeader)).toOption.getD ∅

def galleryPath : Path := (galleryOptions none).header galleryRoot

def galleryWithoutB : FileTree :=
  ((galleryWith galleryPath).remove 20 [] (Path.ofText "/p/shaders/b.wgsl")).toOption.getD ∅

theorem listing_galleryWith : listing (galleryWith galleryPath) gallery.current galleryTop =
    [galleryFile "a", galleryFile "b"] := by
  rw [listing_of_sorted (by decide) (by decide)]
  rfl

theorem finding_galleryWithoutB : World.finding { gallery with tree := galleryWithoutB }
    galleryPath (listing galleryWithoutB gallery.current galleryTop) =
    .ok ⟨[galleryShader "a"], false⟩ := by
  rw [listing_of_sorted (by decide) (by decide)]
  exact Fallible.eq_ok_of_toOption rfl

/-- The second shader is removed after the header was written. -/
theorem skipped_without_b : ∃ first second, Skipped galleryRoot [] galleryPath 9 gallery
    { gallery with tree := galleryWith galleryPath, shown := first }
    { gallery with tree := galleryWithoutB }
    { gallery with tree := galleryWithoutB, shown := second } :=
  gallery_skipped none rfl rfl rfl rfl rfl
    (.remove "/p/shaders/b.wgsl" .start rfl) rfl rfl finding_galleryWithoutB rfl

/-- One shader of two is lost. -/
theorem run_skipped_header_without_b : ∃ first second,
    (gallery.WellFormed ∧ Skipped galleryRoot [] galleryPath 9 gallery
      { gallery with tree := galleryWith galleryPath, shown := first }
      { gallery with tree := galleryWithoutB }
      { gallery with tree := galleryWithoutB, shown := second }) ∧
    ∃ (part : Shader → Text) (forced : World),
      (run galleryRoot [("--force" : Text)] : Session _)
        { gallery with tree := galleryWithoutB, shown := second } = (.ok 0, forced) ∧
      galleryWithoutB.read gallery.current galleryPath = .ok (Text.toBytes (Header.preamble ++
        [galleryShader "a", galleryShader "b"].flatMap part)) ∧
      forced.tree.read forced.current galleryPath =
        .ok (Text.toBytes (Header.preamble ++ [galleryShader "a"].flatMap part)) := by
  obtain ⟨first, second, history⟩ := skipped_without_b
  have shaders : World.shaders { gallery with tree := galleryWith galleryPath, shown := first }
      galleryTop = [galleryShader "a", galleryShader "b"] := by
    rw [World.shaders, listing_galleryWith]
    rfl
  have elsewhere : ∀ shader ∈ [galleryShader "a", galleryShader "b"],
      ((galleryWith galleryPath).locate .status gallery.current shader.path).toOption ≠
        ((galleryWith galleryPath).locate .status gallery.current galleryPath).toOption := by
    decide
  have readable : ([galleryShader "a", galleryShader "b"].filter fun shader =>
      World.canRead { gallery with tree := galleryWithoutB } shader.path) =
      [galleryShader "a"] := rfl
  obtain ⟨part, forced, -, runs, left, content, -⟩ :=
    run_skipped_header (Path.ofText_isWritten "/p") rfl gallery_placed gallery_wellFormed history
      rfl fun shader member same =>
        elsewhere shader (shaders ▸ member) (congrArg Except.toOption same)
  refine ⟨first, second, ⟨gallery_wellFormed, history⟩, part, forced, runs, ?_, ?_⟩
  · exact left.trans (congrArg (fun list : List Shader => Except.ok (Text.toBytes
      (Header.preamble ++ list.flatMap part))) shaders)
  · rw [show (galleryOptions none).directory galleryTop = galleryTop from rfl, shaders] at content
    exact content.trans (congrArg (fun list : List Shader => Except.ok (Text.toBytes
      (Header.preamble ++ list.flatMap part))) readable)

theorem without_b_not_upToDate (shown : List Text) : ¬UpToDate galleryRoot [] galleryPath
    { gallery with tree := galleryWithoutB, shown } := by
  obtain ⟨forced, runs, content⟩ := gallery_forced none [] rfl
    (FileTree.wellFormed_of_entries (by decide) (by decide) (by decide)) rfl rfl
    finding_galleryWithoutB (by simpa using part_plain (by simp) rfl) shown
  refine not_upToDate galleryHeader runs content rfl fun same => ?_
  have whole : gallery.part (galleryOptions none).settings (galleryShader "b") =
      .ok (plainPart (galleryShader "b")) := part_plain (by simp) rfl
  rw [galleryHeader, List.append_cancel_left_eq, List.flatMap_cons, List.flatMap_cons,
    List.append_cancel_left_eq, List.flatMap_singleton] at same
  exact part_ne_nil whole same.symm

def galleryOutput (name : Text) : Path := ⟨1, ["p", "shaders", name]⟩

def galleryAmong : FileTree := galleryWith (galleryOutput "z.wgsl")

theorem finding_galleryAmong : World.finding { gallery with tree := galleryAmong }
    (galleryOutput "z.wgsl") (listing galleryAmong gallery.current galleryTop) =
    .ok ⟨[galleryShader "a", galleryShader "b", galleryShader "z"], false⟩ := by
  rw [listing_of_sorted (by decide) (by decide)]
  exact Fallible.eq_ok_of_toOption rfl

theorem skipped_among : ∃ first second, Skipped galleryRoot ["--output", "/p/shaders/z.wgsl"]
    (galleryOutput "z.wgsl") 9 gallery { gallery with tree := galleryAmong, shown := first }
    { gallery with tree := galleryAmong } { gallery with tree := galleryAmong, shown := second } :=
  gallery_skipped (some (galleryOutput "z.wgsl")) rfl rfl rfl rfl
    rfl .start rfl rfl finding_galleryAmong rfl

theorem among_not_upToDate (shown : List Text) :
    ¬UpToDate galleryRoot ["--output", "/p/shaders/z.wgsl"] (galleryOutput "z.wgsl")
      { gallery with tree := galleryAmong, shown } := by
  rintro ⟨forced, runs, -⟩
  have stated : Options.ofArguments ["--output", "/p/shaders/z.wgsl"] =
      .ok (galleryOptions (some (galleryOutput "z.wgsl"))) := rfl
  obtain ⟨-, update⟩ := run_ok (Options.ofArguments_append_force stated)
    (show _ = some galleryTop from rfl) runs
  obtain ⟨middle, finding, made, found, ends⟩ := update_ok update
  have parent : galleryAmong.isDirectory gallery.current (galleryOutput "z.wgsl").parent = true :=
    rfl
  rw [makeDirectories_of_isDirectory parent] at made
  cases made
  cases found.symm.trans ((finding_shown _ { gallery with tree := galleryAmong } shown _).trans
    finding_galleryAmong)
  rcases ends with ⟨unasked, -⟩ | ⟨-, text, -, -, header, -, -⟩
  · cases unasked
  · -- the header that is there is no shader
    have fails : ((Interface.ofSource (galleryOptions none).settings (galleryShader "z").written
        (Text.unifyLineEnds galleryHeader)).result.mapError Failure.shader).toOption = none := by
      unfold galleryHeader Header.preamble
      repeat rw [String.toList_ofList]
      decide +kernel
    have stored : galleryAmong.read gallery.current (galleryShader "z").path =
        .ok (Text.toBytes galleryHeader) := rfl
    obtain ⟨part, known⟩ := header_ok header (galleryShader "z") (by simp)
    obtain ⟨interface, known, -⟩ := Fallible.bind_eq_ok_iff.1 known
    exact absurd (fails.symm.trans
      (congrArg Except.toOption ((World.interface_of_read stored).symm.trans known))) nofun

def galleryOver : FileTree :=
  ((galleryWith (galleryOutput "out.h")).write 20 [] (Path.ofText "/p/shaders/out.h")
    (Text.toBytes "//")).toOption.getD ∅

theorem finding_galleryOver : World.finding { gallery with tree := galleryOver }
    (galleryOutput "out.h") (listing galleryOver gallery.current galleryTop) =
    .ok ⟨[galleryShader "a", galleryShader "b"], false⟩ := by
  rw [listing_of_sorted (by decide) (by decide)]
  exact Fallible.eq_ok_of_toOption rfl

theorem skipped_over : ∃ first second, Skipped galleryRoot ["--output", "/p/shaders/out.h"]
    (galleryOutput "out.h") 9 gallery
    { gallery with tree := galleryWith (galleryOutput "out.h"), shown := first }
    { gallery with tree := galleryOver } { gallery with tree := galleryOver, shown := second } :=
  gallery_skipped (some (galleryOutput "out.h")) rfl rfl rfl rfl
    rfl (.write "/p/shaders/out.h" (Text.toBytes "//") .start (show (9 : Int) < 20 by decide) rfl)
    rfl rfl finding_galleryOver rfl

theorem over_not_upToDate (shown : List Text) :
    ¬UpToDate galleryRoot ["--output", "/p/shaders/out.h"] (galleryOutput "out.h")
      { gallery with tree := galleryOver, shown } := by
  obtain ⟨forced, runs, content⟩ := gallery_forced (some (galleryOutput "out.h"))
    ["--output", "/p/shaders/out.h"] rfl
    (FileTree.wellFormed_of_entries (by decide) (by decide) (by decide))
    rfl rfl finding_galleryOver (by
      simpa using ⟨part_plain (by simp) rfl, part_plain (by simp) rfl⟩) shown
  exact not_upToDate "//" runs content rfl nofun

/-- What is left as it is need not be up to date: a shader can be gone, the header can be one of
the shaders, and something can be written over it. -/
theorem skipped_not_upToDate :
    (∃ first second, Skipped galleryRoot [] galleryPath 9 gallery
      { gallery with tree := galleryWith galleryPath, shown := first }
      { gallery with tree := galleryWithoutB }
      { gallery with tree := galleryWithoutB, shown := second } ∧
      ¬UpToDate galleryRoot [] galleryPath
        { gallery with tree := galleryWithoutB, shown := second }) ∧
    (∃ first second, Skipped galleryRoot ["--output", "/p/shaders/z.wgsl"]
      (galleryOutput "z.wgsl") 9 gallery { gallery with tree := galleryAmong, shown := first }
      { gallery with tree := galleryAmong } { gallery with tree := galleryAmong, shown := second } ∧
      ¬UpToDate galleryRoot ["--output", "/p/shaders/z.wgsl"] (galleryOutput "z.wgsl")
        { gallery with tree := galleryAmong, shown := second }) ∧
    ∃ first second, Skipped galleryRoot ["--output", "/p/shaders/out.h"]
      (galleryOutput "out.h") 9 gallery
      { gallery with tree := galleryWith (galleryOutput "out.h"), shown := first }
      { gallery with tree := galleryOver } { gallery with tree := galleryOver, shown := second } ∧
      ¬UpToDate galleryRoot ["--output", "/p/shaders/out.h"] (galleryOutput "out.h")
        { gallery with tree := galleryOver, shown := second } := by
  obtain ⟨first, second, removed⟩ := skipped_without_b
  obtain ⟨third, fourth, among⟩ := skipped_among
  obtain ⟨fifth, sixth, replaced⟩ := skipped_over
  exact ⟨⟨first, second, removed, without_b_not_upToDate second⟩,
    ⟨third, fourth, among, among_not_upToDate fourth⟩,
    ⟨fifth, sixth, replaced, over_not_upToDate sixth⟩⟩

end Gallery

end ShaderInterface.Command
