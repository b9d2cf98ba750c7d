import ShaderInterface.Proofs.Command.Effects
import ShaderInterface.Proofs.Header.Counts
import ShaderInterface.Proofs.Header.StructNames

set_option autoImplicit false

namespace ShaderInterface

open Command (Shader listing shaderOf?)
open FileTree (writtenBelow)
open Text (RowsRead)

theorem Header.shaderName?_eq_some {fileName name : Text}
    (named : shaderName? fileName = some name) :
    fileName = name ++ ".wgsl" ∧ Text.isIdentifier name = true := by
  obtain ⟨ended, identifier⟩ := Option.filter_eq_some_iff.1 named
  exact ⟨Text.dropEnd?_eq_some_append ended, identifier⟩

namespace World

variable {world : World} {settings : Settings} {shader : Shader} {shaders : List Shader}
  {part header : Text} {headerPath : Path} {files : List (Text × Text)}

theorem part_rows (plain : settings.primitives.OnOneLine)
    (named : Text.isIdentifier shader.name = true)
    (made : world.part settings shader = .ok part) :
    RowsRead Header.counted? part [shader.name] := by
  obtain ⟨i, known, written⟩ := Fallible.bind_eq_ok_iff.1 made
  obtain ⟨source, -, resolved⟩ := Fallible.bind_eq_ok_iff.1 known
  obtain ⟨uniforms, pushConstants⟩ :=
    Interface.ofSource_isReadable (Fallible.mapError_eq_ok_iff.1 resolved)
  have newline : Text.continuesIdentifier '\n' = false := by decide
  have equals : Text.continuesIdentifier '=' = false := by decide
  exact Header.shaderPart_rows plain (Text.not_mem_of_isIdentifier named newline)
    (Text.not_mem_of_isIdentifier named equals) uniforms pushConstants
    (Fallible.mapError_eq_ok_iff.1 written)

/-- A header counts the bindings of each of its shaders, in their order. -/
theorem countedIn_header (plain : settings.primitives.OnOneLine)
    (named : ∀ shader ∈ shaders, Text.isIdentifier shader.name = true)
    (made : world.header settings shaders = .ok header) :
    Header.countedIn header = shaders.map Shader.name := by
  obtain ⟨parts, success, rfl⟩ := Fallible.map_eq_ok_iff.1 made
  have rows : RowsRead Header.counted? parts.flatten (shaders.map Shader.name) := by
    have each := Fallible.mapM_ok success
    clear made success
    induction each with
    | nil => exact .nil
    | cons here _ ih =>
      obtain ⟨first, later⟩ := List.forall_mem_cons.1 named
      exact (part_rows plain first here).append (ih later)
  exact (Header.preamble_rows.append rows).filterMap_splitOn rfl

end World

namespace Command

open Session

/-- In the directory at `steps` below the top, which is searched, there is a file that is named for
a shader. -/
structure HoldsShader (tree : FileTree) (place : Location) (top : Path) (steps : List Text)
    (fileName : Text) : Prop where
  inside : tree.HasDirectory (place ++ steps)
  searched : folderName (writtenBelow top.text steps) ≠ ("gen" : Text)
  present : tree.look (place ++ steps ++ [fileName]) ≠ none
  plain : tree.isDirectory (place ++ steps) ⟨0, [fileName]⟩ = false
  named : (Header.shaderName? fileName).isSome

/-- What is made of distinct items is distinct when no two items give the same. -/
theorem nodup_filterMap_iff {α β : Type} {f : α → Option β} {items : List α}
    (distinct : items.Nodup) :
    (items.filterMap f).Nodup ↔ ∀ first ∈ items, ∀ second ∈ items, ∀ value,
      f first = some value → f second = some value → first = second := by
  rw [List.Nodup, List.pairwise_filterMap]
  constructor
  · intro apart first member second among value here there
    by_contra ne
    have symmetric : Std.Symm fun a b =>
        ∀ value, f a = some value → ∀ other, f b = some other → value ≠ other :=
      ⟨fun a b apart value there other here same => apart other here value there same.symm⟩
    exact apart.forall member among ne value here value there rfl
  · intro same
    refine distinct.pairwise_of_forall_ne fun a member b among ne value here other there => ?_
    rintro rfl
    exact ne (same a member b among value here there)

section Found

variable {world : World} {place : Location} {top headerPath : Path} {finding : Finding}

/-- The shaders that a search finds have distinct names exactly when no two of the searched
directories hold a shader in files of one name. -/
theorem nodup_names_iff (wellFormed : world.WellFormed) (written : top.IsWritten)
    (reached : world.tree.locate .status world.current top = .ok place)
    (inside : world.tree.HasDirectory place)
    (found : world.finding headerPath (listing world.tree world.current top) = .ok finding) :
    (finding.shaders.map Shader.name).Nodup ↔ ∀ fileName first second,
      HoldsShader world.tree place top first fileName →
      HoldsShader world.tree place top second fileName → first = second := by
  have names : finding.shaders.map Shader.name =
      (listing world.tree world.current top).filterMap fun file => Header.shaderName? file.2 := by
    rw [(finding_ok found).1, List.map_filterMap]
    refine List.filterMap_congr fun file _ => ?_
    rw [shaderOf?, Option.map_map]
    exact Option.map_id'
  have distinct : (listing world.tree world.current top).Nodup :=
    (pairwise_listing reached inside wellFormed.tree written).imp fun before => before.1
  rw [names, nodup_filterMap_iff distinct]
  constructor
  · intro same fileName first second here there
    obtain ⟨name, named⟩ := Option.isSome_iff_exists.1 here.named
    have member := (mem_listing_iff reached inside).2
      ⟨first, here.inside, rfl, here.searched, here.present, here.plain⟩
    have among := (mem_listing_iff reached inside).2
      ⟨second, there.inside, rfl, there.searched, there.present, there.plain⟩
    have texts := congrArg Prod.fst (same _ member _ among name named named)
    exact written.writtenBelow_injective (wellFormed.tree.isName_of_mem here.inside.present)
      (wellFormed.tree.isName_of_mem there.inside.present) texts
  · rintro apart ⟨text, fileName⟩ member ⟨other, otherName⟩ among name here there
    -- the name of the shader tells the name of its file
    obtain rfl : fileName = otherName :=
      (Header.shaderName?_eq_some here).1.trans (Header.shaderName?_eq_some there).1.symm
    obtain ⟨steps, below, rfl, searched, present, plain⟩ := (mem_listing_iff reached inside).1 member
    obtain ⟨others, belowOther, rfl, searchedOther, presentOther, plainOther⟩ :=
      (mem_listing_iff reached inside).1 among
    have named := Option.isSome_iff_exists.2 ⟨name, here⟩
    rw [apart fileName steps others ⟨below, searched, present, plain, named⟩
      ⟨belowOther, searchedOther, presentOther, plainOther, named⟩]

theorem isIdentifier_of_found
    (found : world.finding headerPath (listing world.tree world.current top) = .ok finding) :
    ∀ shader ∈ finding.shaders, Text.isIdentifier shader.name = true := by
  rw [(finding_ok found).1]
  intro shader member
  obtain ⟨file, -, made⟩ := List.mem_filterMap.1 member
  obtain ⟨name, named, rfl⟩ := Option.map_eq_some_iff.1 made
  exact (Header.shaderName?_eq_some named).2

end Found

/-- The names of the shaders that a run collects are distinct exactly when no two of the searched
directories hold a shader in files of one name. A header that the run writes counts the bindings
under these names. -/
theorem run_shader_names {world middle : World} {root shaders : Path} {options : Options}
    {arguments : List Text} {finding : Finding} (rooted : root.IsWritten)
    (wellFormed : world.WellFormed)
    (stated : Options.ofArguments arguments = .ok options)
    (placed : options.shaders? root = some shaders)
    (there : world.tree.isDirectory world.current (options.directory shaders) = true)
    (made : (Host.makeDirectories (options.header root).parent : Session _) world =
      (.ok (), middle))
    (found : ((find (options.header root) (options.directory shaders) : Session _) middle).1 =
      .ok finding) :
    (∃ place, middle.tree.locate .status middle.current (options.directory shaders) = .ok place ∧
      ((finding.shaders.map Shader.name).Nodup ↔ ∀ fileName first second,
        HoldsShader middle.tree place (options.directory shaders) first fileName →
        HoldsShader middle.tree place (options.directory shaders) second fileName →
          first = second)) ∧
    ∀ after, (run root arguments : Session _) world = (.ok 0, after) →
      after.shown.getLast? = some (wroteLine (options.header root)) →
      ∃ text, after.tree.read after.current (options.header root) = .ok (Text.toBytes text) ∧
        Header.countedIn text = finding.shaders.map Shader.name := by
  have plain := Options.ofArguments_isWritten stated
  have raised := makeDirectories_raised (plain.header rooted).parent wellFormed
  rw [made] at raised
  have oneLine : options.settings.primitives.OnOneLine := Primitive.known_onOneLine
  have listed : middle.finding (options.header root)
      (listing middle.tree middle.current (options.directory shaders)) = .ok finding :=
    (answers_find _ _ middle).fst.symm.trans found
  constructor
  · obtain ⟨place, reached, inside⟩ :=
      FileTree.isDirectory_eq_true_iff.1 (raised.isDirectory there)
    exact ⟨place, reached, nodup_names_iff raised.wellFormed (plain.directory rooted placed)
      reached inside listed⟩
  · intro after runs wrote
    obtain ⟨-, update⟩ := run_ok stated placed runs
    have ends := update_ends options (options.header root) (options.directory shaders) world
    rw [update] at ends
    obtain ⟨shadersAgain, again, other, text, placedAgain, madeAgain, foundAgain, parts, read⟩ :=
      (ends.effect wellFormed (plain.header rooted) placed).wrote rfl wrote
    cases placed.symm.trans placedAgain
    cases made.symm.trans madeAgain
    cases found.symm.trans foundAgain
    exact ⟨text, read, World.countedIn_header oneLine (isIdentifier_of_found listed)
      ((answers_header _ _ _ middle).fst.symm.trans parts)⟩

section Gallery

theorem makeDirectories_gallery :
    (Host.makeDirectories galleryPath.parent : Session _) gallery = (.ok (), gallery) :=
  makeDirectories_of_isDirectory rfl

theorem find_gallery : ((find galleryPath galleryTop : Session _) gallery).1 =
    .ok ⟨[galleryShader "a", galleryShader "b"], true⟩ := by
  rw [(answers_find galleryPath galleryTop gallery).fst, listing_gallery]
  exact Fallible.eq_ok_of_toOption rfl

/-- Two shaders in one directory. -/
theorem run_shader_names_gallery :
    (galleryRoot.IsWritten ∧ gallery.WellFormed ∧
      Options.ofArguments [] = .ok (galleryOptions none) ∧
      (galleryOptions none).shaders? galleryRoot = some galleryTop ∧
      gallery.tree.isDirectory gallery.current galleryTop = true ∧
      (Host.makeDirectories galleryPath.parent : Session _) gallery = (.ok (), gallery) ∧
      ((find galleryPath galleryTop : Session _) gallery).1 =
        .ok ⟨[galleryShader "a", galleryShader "b"], true⟩) ∧
    (∃ place, gallery.tree.locate .status gallery.current galleryTop = .ok place ∧
      ([("a" : Text), "b"].Nodup ↔ ∀ fileName first second,
        HoldsShader gallery.tree place galleryTop first fileName →
        HoldsShader gallery.tree place galleryTop second fileName → first = second)) ∧
    ∃ after text, (run galleryRoot [] : Session _) gallery = (.ok 0, after) ∧
      after.tree.read after.current galleryPath = .ok (Text.toBytes text) ∧
      Header.countedIn text = [("a" : Text), "b"] := by
  have rooted : galleryRoot.IsWritten := Path.ofText_isWritten "/p"
  have stated : Options.ofArguments [] = .ok (galleryOptions none) := rfl
  have there : gallery.tree.isDirectory gallery.current galleryTop = true := rfl
  have written : gallery.tree.write gallery.now gallery.current galleryPath
      (Text.toBytes galleryHeader) = .ok (galleryWith galleryPath) := rfl
  obtain ⟨distinct, wrote⟩ := run_shader_names rooted gallery_wellFormed stated gallery_placed there
    makeDirectories_gallery find_gallery
  obtain ⟨shown, runs⟩ := gallery_wrote stated rfl rfl written
  obtain ⟨text, read, counted⟩ := wrote _ runs List.getLast?_concat
  exact ⟨⟨rooted, gallery_wellFormed, stated, gallery_placed, there, makeDirectories_gallery,
    find_gallery⟩, distinct, _, text, runs, read, counted⟩

def galleryWings : World where
  tree := ⟨[(["p"], .directory 0), (["p", "gen"], .directory 0), (["p", "shaders"], .directory 0),
    (["p", "shaders", "a"], .directory 0),
    (["p", "shaders", "a", "lamp.wgsl"], .file (Text.toBytes plainSource) 1),
    (["p", "shaders", "b"], .directory 0),
    (["p", "shaders", "b", "lamp.wgsl"], .file (Text.toBytes plainSource) 1)], by decide⟩
  current := []
  now := 9
  shown := []

def wingFile (wing : Text) : Text × Text := ("/p/shaders/" ++ wing, "lamp.wgsl")

def wingShader (wing : Text) : Shader :=
  ⟨pathOf (wingFile wing), (pathOf (wingFile wing)).text, "lamp"⟩

theorem galleryWings_wellFormed : galleryWings.WellFormed where
  tree := FileTree.wellFormed_of_entries (by decide) (by decide) (by decide)
  current := FileTree.hasDirectory_root

theorem finding_galleryWings : galleryWings.finding galleryPath
    (listing galleryWings.tree galleryWings.current galleryTop) =
    .ok ⟨[wingShader "a", wingShader "b"], true⟩ := by
  rw [listing_of_sorted (by decide) (by decide)]
  exact Fallible.eq_ok_of_toOption rfl

theorem header_galleryWings : galleryWings.header (galleryOptions none).settings
    [wingShader "a", wingShader "b"] =
    .ok (Header.preamble ++ [wingShader "a", wingShader "b"].flatMap plainPart) := by
  apply header_eq
  have interfaces : ∀ wing ∈ [("a" : Text), "b"], (Interface.ofSource (galleryOptions none).settings
      (wingShader wing).written (Text.unifyLineEnds plainSource)).result.toOption = some plain := by
    decide +kernel
  simp only [List.forall_mem_cons, List.not_mem_nil, false_imp_iff, implies_true, and_true]
    at interfaces ⊢
  exact ⟨part_of_plain interfaces.1 rfl, part_of_plain interfaces.2 rfl⟩

/-- Nothing tells shaders apart that are in files of one name, and the header defines the count of
their bindings twice. -/
theorem run_repeats_shader_name : galleryWings.WellFormed ∧
    ((find galleryPath galleryTop : Session _) galleryWings).1 =
      .ok ⟨[wingShader "a", wingShader "b"], true⟩ ∧
    ¬([wingShader "a", wingShader "b"].map Shader.name).Nodup ∧
    ∃ after text, (run galleryRoot [] : Session _) galleryWings = (.ok 0, after) ∧
      after.tree.read after.current galleryPath = .ok (Text.toBytes text) ∧
      ¬(Header.countedIn text).Nodup := by
  have repeated : ¬([wingShader "a", wingShader "b"].map Shader.name).Nodup := by decide
  have oneLine : (galleryOptions none).settings.primitives.OnOneLine := Primitive.known_onOneLine
  have stated : Options.ofArguments [] = .ok (galleryOptions none) := rfl
  have there : galleryWings.tree.isDirectory galleryWings.current galleryTop = true := rfl
  obtain ⟨shown, runs⟩ := run_writes stated gallery_placed there rfl finding_galleryWings rfl
    header_galleryWings rfl
  refine ⟨galleryWings_wellFormed, (answers_find _ _ _).fst.trans finding_galleryWings, repeated,
    _, _, runs, rfl, ?_⟩
  rwa [World.countedIn_header oneLine (isIdentifier_of_found finding_galleryWings)
    header_galleryWings]

end Gallery

end Command
end ShaderInterface
