import ShaderInterface.Proofs.Command.Updating
import ShaderInterface.Proofs.Files.Evolution

set_option autoImplicit false

namespace ShaderInterface.Command

open FileTree (Evolved writtenBelow Leads linkLimit)

section

variable {fresh : Location → Int → Prop} {tree later : FileTree} {current place : Location}
  {top : Path} {file : Text × Text} {last : Location} {content : ByteArray} {time : Int}
  (evolved : Evolved fresh tree later) (wellFormed : tree.WellFormed)
  (wellFormedLater : later.WellFormed) (written : top.IsWritten)
  (found : tree.locate .status current top = .ok place) (inside : tree.HasDirectory place)
  (foundLater : later.locate .status current top = .ok place)
include evolved wellFormed wellFormedLater written found inside foundLater

/-- A file that is not fresh was there for the earlier search. -/
theorem mem_listing_of_later (member : file ∈ listing later current top)
    (reached : later.locate .status current (pathOf file) = .ok last)
    (there : later.look last = some (.file content time)) (stale : ¬fresh last time) :
    file ∈ listing tree current top := by
  obtain ⟨text, name⟩ := file
  obtain ⟨steps, below, rfl, searched, present, plain⟩ :=
    (mem_listing_iff foundLater (evolved.directories _ inside)).1 member
  have same := (evolved.files _ _ _ there).resolve_left stale
  rw [pathOf_below wellFormedLater written present] at reached
  have leads := leads_of_locate_below foundLater wellFormedLater below reached
  have presentBefore : tree.look (place ++ steps ++ [name]) ≠ none := by
    rcases leads.eq_or_link (wellFormedLater.named _ _ present).step with rfl | ⟨target, linked⟩
    · rw [same]
      exact nofun
    · rw [evolved.links _ _ linked]
      exact nofun
  refine (mem_listing_iff found inside).2
    ⟨steps, wellFormed.inside _ _ presentBefore, rfl, searched, presentBefore, ?_⟩
  by_contra entered
  obtain ⟨lastBefore, reachedBefore, directory⟩ :=
    FileTree.isDirectory_eq_true_iff.1 (Bool.not_eq_false _ ▸ entered)
  obtain rfl := evolved.agree leads (FileTree.locate_eq_ok_iff.1 reachedBefore).2 (by simp [same])
  rw [FileTree.HasDirectory, same] at directory
  cases directory

/-- A file of the earlier search that can still be read is found again. -/
theorem mem_listing_later (member : file ∈ listing tree current top)
    (reached : later.locate .status current (pathOf file) = .ok last)
    (there : later.look last = some (.file content time)) : file ∈ listing later current top := by
  obtain ⟨text, name⟩ := file
  obtain ⟨steps, below, rfl, searched, present, -⟩ := (mem_listing_iff found inside).1 member
  have belowLater := evolved.directories _ below
  rw [pathOf_below wellFormed written present] at reached
  have leads := leads_of_locate_below foundLater wellFormedLater belowLater reached
  have presentLater : later.look (place ++ steps ++ [name]) ≠ none := by
    rcases leads.eq_or_link (wellFormed.named _ _ present).step with rfl | ⟨target, linked⟩
    · rw [there]
      exact nofun
    · rw [linked]
      exact nofun
  refine (mem_listing_iff foundLater (evolved.directories _ inside)).2
    ⟨steps, belowLater, rfl, searched, presentLater, ?_⟩
  by_contra entered
  obtain ⟨other, reachedOther, directory⟩ :=
    FileTree.isDirectory_eq_true_iff.1 (Bool.not_eq_false _ ▸ entered)
  have again := (FileTree.locate_eq_ok_iff.1 reachedOther).2.locateFrom
  obtain rfl : last = other := Except.ok.inj (leads.locateFrom.symm.trans again)
  rw [FileTree.HasDirectory, there] at directory
  cases directory

end

/-- New directories bring no files. -/
theorem mem_listing_of_grown {tree later : FileTree} {current : Location} {top : Path}
    {file : Text × Text} (grown : tree.Grown later) (wellFormed : tree.WellFormed)
    (wellFormedLater : later.WellFormed) (there : tree.isDirectory current top = true)
    (member : file ∈ listing later current top) : file ∈ listing tree current top := by
  obtain ⟨text, name⟩ := file
  obtain ⟨place, found, inside⟩ := FileTree.isDirectory_eq_true_iff.1 there
  obtain ⟨steps, below, rfl, searched, present, plain⟩ :=
    (mem_listing_iff (grown.locate found) (grown.directories inside)).1 member
  have named := wellFormedLater.named _ _ present
  have outside : ¬later.HasDirectory (place ++ steps ++ [name]) := by
    intro directory
    have nameable : Path.isNameable ⟨0, [name]⟩ = true := by simpa [Path.isNameable] using named.null
    have entered : later.isDirectory (place ++ steps) ⟨0, [name]⟩ = true :=
      FileTree.isDirectory_eq_true_iff.2 ⟨_, FileTree.locate_eq_ok_iff.2
        ⟨nameable, .into below named.step directory (by simp) .here⟩, directory⟩
    rw [plain] at entered
    cases entered
  rw [grown.unchanged outside] at present
  refine (mem_listing_iff found inside).2
    ⟨steps, wellFormed.inside _ _ present, rfl, searched, present, ?_⟩
  rw [← Bool.not_eq_true] at plain ⊢
  exact fun entered => plain (grown.isDirectory entered)

theorem path_of_shaderOf? {file : Text × Text} {shader : Shader}
    (named : shaderOf? file = some shader) : shader.path = pathOf file := by
  obtain ⟨name, -, rfl⟩ := Option.map_eq_some_iff.1 named
  rfl

theorem mem_shaders_iff {world : World} {top : Path} {shader : Shader} :
    shader ∈ world.shaders top ↔
      ∃ file ∈ listing world.tree world.current top, shaderOf? file = some shader :=
  List.mem_filterMap

def isShader (file : Text × Text) : Bool := (shaderOf? file).isSome

theorem shaders_eq_filterMap (world : World) (top : Path) :
    world.shaders top =
      ((listing world.tree world.current top).filter isShader).filterMap shaderOf? := by
  rw [World.shaders, List.filterMap_filter]
  refine List.filterMap_congr fun file _ => ?_
  cases known : shaderOf? file <;> simp [isShader, known]

section

variable {fresh : Location → Int → Prop} {before later : World} {top : Path}
  (evolved : Evolved fresh before.tree later.tree) (here : later.current = before.current)
  (wellFormed : before.WellFormed) (wellFormedLater : later.WellFormed)
include evolved here

/-- A file that is not fresh has the content that it had. -/
theorem read_eq {path : Path} {last : Location} {content : ByteArray} {time : Int}
    (reached : later.tree.locate .status later.current path = .ok last)
    (there : later.tree.look last = some (.file content time)) (stale : ¬fresh last time)
    (readable : before.canRead path = true) :
    later.tree.read later.current path = before.tree.read before.current path := by
  obtain ⟨lastBefore, contentBefore, timeBefore, reachedBefore, thereBefore⟩ :=
    World.canRead_iff.1 readable
  have same := (evolved.files _ _ _ there).resolve_left stale
  rw [here] at reached
  obtain rfl := evolved.locate_eq reached reachedBefore (by simp [same])
  rw [same] at thereBefore
  cases thereBefore
  rw [here, FileTree.read_eq_ok_iff.2 ⟨time, FileTree.status_eq_file_iff.2 ⟨_, reached, there⟩⟩,
    FileTree.read_eq_ok_iff.2 ⟨time, FileTree.status_eq_file_iff.2 ⟨_, reachedBefore, same⟩⟩]

include wellFormed wellFormedLater

/-- If no shader that is found leads to a fresh file, the search comes to those of the earlier files
that are shaders and can still be read. -/
theorem filter_listing_later {place : Location} (written : top.IsWritten)
    (found : before.tree.locate .status before.current top = .ok place)
    (inside : before.tree.HasDirectory place)
    (foundLater : later.tree.locate .status later.current top = .ok place)
    (stale : ∀ shader ∈ later.shaders top, ∃ last content time,
      later.tree.locate .status later.current shader.path = .ok last ∧
        later.tree.look last = some (.file content time) ∧ ¬fresh last time) :
    (listing later.tree later.current top).filter isShader =
      ((listing before.tree before.current top).filter isShader).filter fun file =>
        later.canRead (pathOf file) := by
  -- both lists are in the order of a search, so it is enough that they have the same members
  have sorted := (pairwise_listing found inside wellFormed.tree written).filter isShader
  have sortedLater := (pairwise_listing foundLater (evolved.directories _ inside)
    wellFormedLater.tree written).filter isShader
  refine sortedLater.eq_of_mem_iff (sorted.filter _) fun file => ?_
  rw [List.mem_filter, List.mem_filter, List.mem_filter]
  constructor
  · rintro ⟨member, shaders⟩
    obtain ⟨shader, known⟩ := Option.isSome_iff_exists.1 shaders
    obtain ⟨last, content, time, reached, leads, old⟩ :=
      stale shader (mem_shaders_iff.2 ⟨_, member, known⟩)
    rw [path_of_shaderOf? known] at reached
    refine ⟨⟨?_, shaders⟩, World.canRead_iff.2 ⟨last, content, time, reached, leads⟩⟩
    exact mem_listing_of_later evolved wellFormed.tree wellFormedLater.tree written found inside
      (here ▸ foundLater) (here ▸ member) (here ▸ reached) leads old
  · rintro ⟨⟨member, shaders⟩, readable⟩
    obtain ⟨last, content, time, reached, leads⟩ := World.canRead_iff.1 readable
    refine ⟨?_, shaders⟩
    rw [here] at foundLater reached ⊢
    exact mem_listing_later evolved wellFormed.tree wellFormedLater.tree written found inside
      foundLater member reached leads

/-- If no shader that is found leads to a fresh file, they are those that were found before and can
still be read. -/
theorem shaders_later (written : top.IsWritten)
    (there : before.tree.isDirectory before.current top = true)
    (thereLater : later.tree.isDirectory later.current top = true)
    (stale : ∀ shader ∈ later.shaders top, ∃ last content time,
      later.tree.locate .status later.current shader.path = .ok last ∧
        later.tree.look last = some (.file content time) ∧ ¬fresh last time) :
    later.shaders top = (before.shaders top).filter fun shader => later.canRead shader.path := by
  obtain ⟨place, found, inside⟩ := FileTree.isDirectory_eq_true_iff.1 there
  obtain ⟨placeLater, foundLater, insideLater⟩ := FileTree.isDirectory_eq_true_iff.1 thereLater
  obtain rfl : place = placeLater :=
    evolved.locate_eq (here ▸ foundLater) found fun target => evolved.apart _ target insideLater
  have files := filter_listing_later evolved here wellFormed wellFormedLater written found inside
    foundLater stale
  rw [shaders_eq_filterMap, shaders_eq_filterMap, files, List.filterMap_filter,
    List.filter_filterMap]
  refine List.filterMap_congr fun file _ => ?_
  cases known : shaderOf? file with
  | none => simp
  | some shader => rw [Option.filter_some, path_of_shaderOf? known]

end

end ShaderInterface.Command
