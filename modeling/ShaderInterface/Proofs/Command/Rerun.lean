import ShaderInterface.Proofs.Command.Endings

set_option autoImplicit false

namespace ShaderInterface.Command

open Session

variable {world before after : World} {headerPath top root shaders : Path} {limit : Int}

/-- Every file that a search comes to leads somewhere, and none is newer than the header. -/
structure Settled (world : World) (headerPath top : Path) : Prop where
  linked : ∀ file ∈ listing world.tree world.current top,
    world.tree.isPresent world.current (pathOf file) = true
  old : ∀ file ∈ listing world.tree world.current top, ∀ time limit,
    world.tree.modified world.current (pathOf file) = .ok time →
    world.tree.modified world.current headerPath = .ok limit → time ≤ limit

/-- A search in which no file is newer tells so. -/
theorem finding_of_old {files : List (Text × Text)}
    (old : ∀ file ∈ files, world.isNewer (pathOf file) headerPath = .ok false) :
    world.finding headerPath files = .ok ⟨files.filterMap shaderOf?, false⟩ := by
  induction files with
  | nil => rfl
  | cons file rest ih =>
    obtain ⟨here, others⟩ := List.forall_mem_cons.1 old
    rw [World.finding, here, ih others, List.filterMap_cons]
    cases shaderOf? file <;> rfl

theorem settled_iff (wellFormed : world.WellFormed)
    (dated : world.tree.modified world.current headerPath = .ok limit) :
    Settled world headerPath top ↔ ∃ finding,
      world.finding headerPath (listing world.tree world.current top) = .ok finding ∧
        finding.outdated = false := by
  constructor
  · intro settled
    refine ⟨_, finding_of_old fun file member => (isNewer_eq_false_iff dated).2 ?_, rfl⟩
    obtain ⟨time, known⟩ := wellFormed.tree.modified_of_isPresent wellFormed.current
      ((Path.ofText_isWritten file.1).child file.2) (settled.linked file member)
    exact ⟨time, known, Int.not_lt.2 (settled.old file member time limit known dated)⟩
  · rintro ⟨finding, found, current⟩
    have ages : ∀ file ∈ listing world.tree world.current top, ∃ time,
        world.tree.modified world.current (pathOf file) = .ok time ∧ ¬limit < time :=
      fun file member => (isNewer_eq_false_iff dated).1 ((finding_ok found).2 current file member)
    constructor
    · intro file member
      obtain ⟨time, known, -⟩ := ages file member
      exact FileTree.isPresent_of_modified known
    · intro file member time latest known again
      cases dated.symm.trans again
      obtain ⟨age, same, old⟩ := ages file member
      cases known.symm.trans same
      exact Int.not_lt.1 old

section

variable {arguments again : List Text} {options : Options}
  (rooted : root.IsWritten) (placed : options.shaders? root = some shaders)
include placed

/-- A run that is not forced leaves a header as it is exactly when there is nothing to do. -/
theorem run_skips_iff {content : ByteArray} (wellFormed : world.WellFormed)
    (stated : Options.ofArguments arguments = .ok options) (unforced : options.force = false)
    (there : world.tree.isDirectory world.current (options.directory shaders) = true)
    (header : world.tree.status world.current (options.header root) =
      .ok (.file content limit)) :
    (∃ shown, world.shown <+: shown ∧ (run root arguments : Session _) world =
      (.ok 0, { world with shown := shown ++ [skippedLine (options.header root)] })) ↔
      Settled world (options.header root) (options.directory shaders) := by
  rw [settled_iff wellFormed (FileTree.modified_eq_ok_iff.2 ⟨_, header, rfl⟩)]
  constructor
  · rintro ⟨shown, -, success⟩
    exact (run_skipped stated placed wellFormed header success List.getLast?_concat).2.2
  · rintro ⟨finding, found, current⟩
    exact run_skips stated placed there (FileTree.isDirectory_parent header wellFormed.current)
      found (by rw [current, unforced]; rfl)

include rooted

/-- After a run that writes the header, a run with the same options, but not forced, has nothing to
do and leaves every file as it is, if no file is changed in between, none that the search comes to
leads nowhere and none is newer than the header. -/
theorem run_again_skips (wellFormed : before.WellFormed)
    (stated : Options.ofArguments arguments = .ok options)
    (statedAgain : Options.ofArguments again = .ok { options with force := false })
    (success : (run root arguments : Session _) before = (.ok 0, after))
    (reported : after.shown.getLast? = some (wroteLine (options.header root)))
    (settled : Settled after (options.header root) (options.directory shaders)) (now : Int)
    (earlier : List Text) :
    ∃ shown, earlier <+: shown ∧
      (run root again : Session _) { after with now, shown := earlier } =
        (.ok 0, { after with
          now
          shown := shown ++ [skippedLine (options.header root)] }) := by
  obtain ⟨middle, text, wellFormedThen, there, -, done, here⟩ :=
    run_wrote_file rooted stated placed wellFormed success reported
  obtain ⟨wellFormedAfter, header, directories⟩ :=
    file_written wellFormedThen ((Options.ofArguments_isWritten stated).header rooted) done here
  -- the time and what was shown before play no part
  let next : World := { after with now, shown := earlier }
  have wellFormedNext : next.WellFormed := ⟨wellFormedAfter.tree, wellFormedAfter.current⟩
  have settledNext : Settled next (options.header root) (options.directory shaders) :=
    ⟨settled.linked, settled.old⟩
  let unforced : Options := { options with force := false }
  have placedAgain : unforced.shaders? root = some shaders := placed
  exact (run_skips_iff placedAgain wellFormedNext statedAgain rfl (directories _ there) header).2
    settledNext

end

/-- A header among the shaders is no reason to write it again. -/
theorem run_again_skips_among : ∃ first second,
    (gallery.WellFormed ∧
      (run galleryRoot ["--output", "/p/shaders/z.wgsl"] : Session _) gallery = (.ok 0,
        { gallery with
          tree := galleryAmong
          shown := first ++ [wroteLine (galleryOutput "z.wgsl")] }) ∧
      Settled { gallery with tree := galleryAmong } (galleryOutput "z.wgsl") galleryTop ∧
      galleryFile "z" ∈ listing galleryAmong gallery.current galleryTop) ∧
    (run galleryRoot ["--output", "/p/shaders/z.wgsl"] : Session _)
      { gallery with tree := galleryAmong, now := 12 } = (.ok 0,
        { gallery with
          tree := galleryAmong
          now := 12
          shown := second ++ [skippedLine (galleryOutput "z.wgsl")] }) := by
  have stated : Options.ofArguments ["--output", "/p/shaders/z.wgsl"] =
      .ok (galleryOptions (some (galleryOutput "z.wgsl"))) := rfl
  have written : gallery.tree.write gallery.now gallery.current (galleryOutput "z.wgsl")
      (Text.toBytes galleryHeader) = .ok galleryAmong := rfl
  obtain ⟨first, wrote⟩ := gallery_wrote stated rfl rfl written
  have wellFormed : World.WellFormed { gallery with tree := galleryAmong } :=
    ⟨FileTree.wellFormed_of_entries (by decide) (by decide) (by decide),
      FileTree.hasDirectory_root⟩
  have dated : galleryAmong.modified gallery.current (galleryOutput "z.wgsl") = .ok 9 := rfl
  have settled : Settled { gallery with tree := galleryAmong } (galleryOutput "z.wgsl")
      galleryTop := (settled_iff wellFormed dated).2 ⟨_, finding_galleryAmong, rfl⟩
  have among : galleryFile "z" ∈ listing galleryAmong gallery.current galleryTop := by
    rw [listing_of_sorted (by decide) (by decide)]
    decide
  obtain ⟨second, -, skipped⟩ := run_again_skips (Path.ofText_isWritten "/p") gallery_placed
    gallery_wellFormed stated stated wrote List.getLast?_concat
    ⟨settled.linked, settled.old⟩ 12 []
  exact ⟨first, second, ⟨gallery_wellFormed, wrote, settled, among⟩, skipped⟩

end ShaderInterface.Command
