import ShaderInterface.Proofs.Command.Upkeep

set_option autoImplicit false

namespace ShaderInterface.Command

open Session

variable {world after : World} {answer : Result Nat} {options : Options} {root : Path}
  {arguments : List Text}

/-- What a run with the options does to a world. -/
structure Effect (options : Options) (root : Path) (world : World) (answer : Result Nat)
    (after : World) : Prop where
  /-- Nothing is different but for new directories on the way to the header, and the header. -/
  frame : ∀ place, after.tree.look place = world.tree.look place ∨
    world.tree.look place = none ∧ after.tree.HasDirectory place ∧
      after.OnWay (options.header root).parent place ∨
    after.tree.locate .status after.current (options.header root) = .ok place
  /-- A run that does not succeed or has nothing to do leaves the header alone as well. -/
  spared : answer ≠ .ok 0 ∨
    after.shown.getLast? = some (skippedLine (options.header root)) →
      world.Raised (options.header root).parent after
  reported : answer = .ok 0 →
    after.shown.getLast? = some (skippedLine (options.header root)) ∨
    after.shown.getLast? = some (wroteLine (options.header root))
  /-- A header that is written has everything that is made from the shaders found. -/
  wrote : answer = .ok 0 → after.shown.getLast? = some (wroteLine (options.header root)) →
    ∃ shaders middle finding text, options.shaders? root = some shaders ∧
      (Host.makeDirectories (options.header root).parent : Session _) world = (.ok (), middle) ∧
      ((find (options.header root) (options.directory shaders) : Session _) middle).1 =
        .ok finding ∧
      ((header options.settings options.dumpTables finding.shaders : Session _) middle).1 =
        .ok text ∧
      after.tree.read after.current (options.header root) = .ok (Text.toBytes text)

/-- The effect of a run that does not write the header. -/
theorem Effect.of_raised (raised : world.Raised (options.header root).parent after)
    (skipped : answer = .ok 0 →
      after.shown.getLast? = some (skippedLine (options.header root))) :
    Effect options root world answer after where
  frame place := by
    rcases raised.grown place with same | ⟨absent, fresh⟩
    · exact .inl same
    · have way := (raised.onWay place fresh).resolve_left fun before => before.present absent
      exact .inr (.inl ⟨absent, fresh, way⟩)
  spared _ := raised
  reported zero := .inl (skipped zero)
  wrote zero last := by
    rw [skipped zero, Option.some.injEq] at last
    exact absurd last.symm (wroteLine_ne_skippedLine _ _)

theorem Effect.of_failed (raised : world.Raised (options.header root).parent after)
    (failed : answer ≠ .ok 0) : Effect options root world answer after :=
  .of_raised raised fun zero => absurd zero failed

/-- When a file is written behind new directories on the way to it, every other place is as before
or has one of the directories. -/
theorem frame_of_changed {middle : World} {path : Path} {place elsewhere : Location}
    {content : ByteArray} {time : Int} {tree : FileTree} {shown : List Text}
    (raised : world.Raised path middle)
    (changed : middle.tree.Changed place (some (.file content time)) tree)
    (outside : ¬middle.tree.HasDirectory place)
    (solid : ∀ target, middle.tree.look place ≠ some (.link target))
    (other : elsewhere ≠ place) :
    tree.look elsewhere = world.tree.look elsewhere ∨
      world.tree.look elsewhere = none ∧ tree.HasDirectory elsewhere ∧
        World.OnWay { middle with tree, shown } path elsewhere := by
  have untouched : tree.look elsewhere = middle.tree.look elsewhere :=
    (changed elsewhere).trans (if_neg other)
  rcases raised.grown elsewhere with kept | ⟨absent, fresh⟩
  · exact .inl (untouched.trans kept)
  · obtain ⟨parts, above, led⟩ :=
      (raised.onWay elsewhere fresh).resolve_left fun before => before.present absent
    exact .inr ⟨absent, untouched.trans fresh, parts, above,
      (changed.locate_iff outside solid).2 led⟩

theorem Ending.effect (wellFormed : world.WellFormed) (written : (options.header root).IsWritten)
    {shaders : Path} (placed : options.shaders? root = some shaders)
    (ends : Ending options (options.header root) (options.directory shaders) world answer after) :
    Effect options root world answer after := by
  have raised := makeDirectories_raised written.parent wellFormed
  cases ends with
  | blocked made =>
    rw [made] at raised
    exact .of_failed raised (by simp)
  | lost made found =>
    rw [made] at raised
    exact .of_failed (raised.shown _) (by simp)
  | skipped made found unasked =>
    rw [made] at raised
    exact .of_raised (raised.shown _) fun _ => List.getLast?_concat
  | failed made found asked parts status =>
    rw [made] at raised
    exact .of_failed (raised.shown _) fun zero =>
      absurd (status.trans zero) (Failure.status_ne_zero _)
  | unwritten made found asked parts refused =>
    rw [made] at raised
    exact .of_failed (raised.shown _) (by simp)
  | @wrote middle finding text tree shown made found asked parts done =>
    rw [made] at raised
    obtain ⟨place, reached, outside, solid, changed, -⟩ :=
      raised.wellFormed.tree.write_ok raised.wellFormed.current written done
    have reachedAfter : tree.locate .status middle.current (options.header root) = .ok place :=
      (changed.locate_iff outside solid).2 reached
    refine ⟨fun elsewhere => ?_, ?_, fun _ => .inr List.getLast?_concat, fun _ _ => ?_⟩
    · by_cases same : elsewhere = place
      · exact .inr (.inr (same ▸ reachedAfter))
      · exact (frame_of_changed raised changed outside solid same).imp_right .inl
    · rintro (failed | skipped)
      · exact absurd rfl failed
      · rw [List.getLast?_concat, Option.some.injEq] at skipped
        exact absurd skipped (wroteLine_ne_skippedLine _ _)
    · obtain ⟨_, searched⟩ :=
        (answers_find (options.header root) (options.directory shaders) middle).apply
      obtain ⟨_, answered⟩ :=
        (answers_header options.settings options.dumpTables finding.shaders middle).apply
      exact ⟨shaders, middle, finding, text, placed, made, searched ▸ found, answered ▸ parts,
        FileTree.read_eq_ok_iff.2 ⟨_, changed.status_eq outside solid reached⟩⟩

/-- A run touches nothing but its header, and that only to write it as a whole. -/
theorem run_effect (rooted : root.IsWritten) (wellFormed : world.WellFormed)
    (runs : (run root arguments : Session _) world = (answer, after)) :
    match Options.ofArguments arguments with
    | .error refusal => answer = .error (.refused refusal) ∧ after = world
    | .ok options => Effect options root world answer after := by
  cases stated : Options.ofArguments arguments with
  | error refusal =>
    rw [run, stated] at runs
    cases runs
    exact ⟨rfl, rfl⟩
  | ok options =>
    have written := (Options.ofArguments_isWritten stated).header rooted
    cases placed : options.shaders? root with
    | none =>
      rw [run, stated] at runs
      simp only [carryOut, placed] at runs
      cases runs
      exact .of_failed (.refl _ wellFormed) (by simp)
    | some shaders =>
      cases there : world.tree.isDirectory world.current (options.directory shaders) with
      | true =>
        rw [run_apply stated placed there] at runs
        have ends := update_ends options (options.header root) (options.directory shaders) world
        rw [runs] at ends
        exact ends.effect wellFormed written placed
      | false =>
        have directory : (Host.isDirectory (options.directory shaders) : Session _) world =
            (false, world) := congrArg (·, world) there
        rw [run, stated] at runs
        simp only [carryOut, placed, bind_apply, directory, Bool.false_eq_true, if_false] at runs
        cases runs
        exact .of_failed ((World.Raised.refl _ wellFormed).shown _) (by simp)

/-- A first run, which writes the header. -/
theorem run_effect_gallery : ∃ shown, (galleryRoot.IsWritten ∧ gallery.WellFormed ∧
    (run galleryRoot [] : Session _) gallery =
      (.ok 0, { gallery with tree := galleryWith galleryPath, shown })) ∧
    Effect (galleryOptions none) galleryRoot gallery (.ok 0)
      { gallery with tree := galleryWith galleryPath, shown } := by
  have stated : Options.ofArguments [] = .ok (galleryOptions none) := rfl
  have written : gallery.tree.write gallery.now gallery.current galleryPath
      (Text.toBytes galleryHeader) = .ok (galleryWith galleryPath) := rfl
  have rooted : galleryRoot.IsWritten := Path.ofText_isWritten "/p"
  obtain ⟨shown, wrote⟩ := gallery_wrote stated rfl rfl written
  exact ⟨_, ⟨rooted, gallery_wellFormed, wrote⟩, run_effect rooted gallery_wellFormed wrote⟩

end ShaderInterface.Command
