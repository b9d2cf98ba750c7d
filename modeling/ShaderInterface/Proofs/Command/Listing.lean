import Mathlib.Data.List.Sort
import ShaderInterface.Command.Run
import ShaderInterface.Proofs.Files.WellFormed

set_option autoImplicit false

namespace ShaderInterface

namespace Text

variable {s t u : Text}

theorem atMost_cons_iff {c d : Char} :
    atMost (c :: s) (d :: t) = true ↔ c.toNat < d.toNat ∨ c = d ∧ atMost s t = true := by
  simp [atMost]

theorem atMost_trans (first : atMost s t = true) (second : atMost t u = true) :
    atMost s u = true := by
  induction s generalizing t u with
  | nil => rfl
  | cons c s ih =>
    cases t with
    | nil => cases first
    | cons d t =>
      cases u with
      | nil => cases second
      | cons e u =>
        rw [atMost_cons_iff] at first second ⊢
        rcases first with less | ⟨rfl, first⟩
        · rcases second with further | ⟨rfl, -⟩
          · exact .inl (less.trans further)
          · exact .inl less
        · rcases second with less | ⟨rfl, second⟩
          · exact .inl less
          · exact .inr ⟨rfl, ih first second⟩

theorem atMost_total (s t : Text) : (atMost s t || atMost t s) = true := by
  rw [Bool.or_eq_true]
  induction s generalizing t with
  | nil => exact .inl rfl
  | cons c s ih =>
    cases t with
    | nil => exact .inr rfl
    | cons d t =>
      rw [atMost_cons_iff, atMost_cons_iff]
      rcases Nat.lt_trichotomy c.toNat d.toNat with less | same | greater
      · exact .inl (.inl less)
      · obtain rfl := Char.toNat_inj.1 same
        rcases ih t with first | second
        · exact .inl (.inr ⟨rfl, first⟩)
        · exact .inr (.inr ⟨rfl, second⟩)
      · exact .inr (.inl greater)

theorem atMost_antisymm (first : atMost s t = true) (second : atMost t s = true) : s = t := by
  induction s generalizing t with
  | nil =>
    cases t with
    | nil => rfl
    | cons => cases second
  | cons c s ih =>
    cases t with
    | nil => cases first
    | cons d t =>
      rw [atMost_cons_iff] at first second
      rcases first with less | ⟨rfl, first⟩
      · rcases second with greater | ⟨rfl, -⟩
        · exact absurd less (Nat.lt_asymm greater)
        · exact absurd less (Nat.lt_irrefl _)
      · rcases second with less | ⟨-, second⟩
        · exact absurd less (Nat.lt_irrefl _)
        · rw [ih first second]

end Text

namespace FileTree

variable {tree : FileTree} {current place : Location} {top : Path} {name : Text}
  {steps : List Text}

theorem mem_names_iff : name ∈ tree.names place ↔ tree.look (place ++ [name]) ≠ none := by
  rw [Ne, look_eq_none_iff, entry?_of_ne_root (by simp), Table.find?_eq_none_iff, not_not, names,
    List.mem_filterMap, Table.mem_iff]
  constructor
  · rintro ⟨other, member, here⟩
    split at here
    · next below =>
      obtain ⟨lead, rfl⟩ := List.getLast?_eq_some_iff.1 here
      rw [List.dropLast_concat] at below
      exact below.2 ▸ member
    · cases here
  · intro member
    exact ⟨_, member, by simp⟩

theorem nodup_names (tree : FileTree) (place : Location) : (tree.names place).Nodup := by
  refine List.Nodup.filterMap ?_ tree.nodup_keys
  intro first second name here there
  simp only [Option.mem_def, Option.ite_none_right_eq_some] at here there
  obtain ⟨lead, rfl⟩ := List.getLast?_eq_some_iff.1 here.2
  obtain ⟨other, rfl⟩ := List.getLast?_eq_some_iff.1 there.2
  rw [List.dropLast_concat] at here there
  rw [here.1.2, there.1.2]

theorem mem_stepsBelow_iff (inside : tree.HasDirectory place) :
    steps ∈ tree.stepsBelow place ↔ tree.HasDirectory (place ++ steps) := by
  rw [stepsBelow, List.mem_cons, List.mem_filterMap]
  constructor
  · rintro (rfl | ⟨⟨other, entry⟩, member, here⟩)
    · rwa [List.append_nil]
    · obtain ⟨⟨directory, above, apart⟩, below⟩ := Option.ite_none_right_eq_some.1 here
      obtain ⟨behind, rfl⟩ := List.isPrefixOf_iff_prefix.1 above
      obtain ⟨time, rfl⟩ := isDirectory_iff.1 directory
      rw [List.drop_left, Option.some.injEq] at below
      subst below
      refine hasDirectory_iff.2 ⟨time, ?_⟩
      rw [entry?_of_ne_root fun root => apart ?_]
      · exact Table.find?_eq_some_iff.2 member
      · obtain ⟨rfl, rfl⟩ := List.append_eq_nil_iff.1 root
        rfl
  · intro below
    by_cases top : steps = []
    · exact .inl top
    · obtain ⟨time, found⟩ := hasDirectory_iff.1 below
      rw [entry?_of_ne_root fun root => top (List.append_eq_nil_iff.1 root).2] at found
      refine .inr ⟨_, Table.find?_eq_some_iff.1 found, ?_⟩
      rw [if_pos ⟨rfl, by simp, by simpa using top⟩, List.drop_left]

theorem nodup_stepsBelow (tree : FileTree) (place : Location) : (tree.stepsBelow place).Nodup := by
  rw [stepsBelow, List.nodup_cons]
  constructor
  · intro member
    obtain ⟨⟨other, entry⟩, -, here⟩ := List.mem_filterMap.1 member
    obtain ⟨⟨-, above, apart⟩, none⟩ := Option.ite_none_right_eq_some.1 here
    obtain ⟨behind, rfl⟩ := List.isPrefixOf_iff_prefix.1 above
    rw [List.drop_left, Option.some.injEq] at none
    exact apart (by rw [none, List.append_nil])
  · -- the keys are distinct, and an entry is known by its steps
    have distinct : tree.entries.Pairwise fun first second => first.1 ≠ second.1 :=
      List.pairwise_map.1 tree.distinct
    refine List.Pairwise.filterMap _ ?_ distinct
    intro first second apart steps here others there same
    obtain ⟨⟨-, above, -⟩, below⟩ := Option.ite_none_right_eq_some.1 here
    obtain ⟨⟨-, aboveOther, -⟩, belowOther⟩ := Option.ite_none_right_eq_some.1 there
    obtain ⟨behind, whole⟩ := List.isPrefixOf_iff_prefix.1 above
    obtain ⟨further, wholeOther⟩ := List.isPrefixOf_iff_prefix.1 aboveOther
    rw [← whole, List.drop_left, Option.some.injEq] at below
    rw [← wholeOther, List.drop_left, Option.some.injEq] at belowOther
    exact apart (by rw [← whole, ← wholeOther, below, belowOther, same])

theorem walk_eq (found : tree.locate .status current top = .ok place)
    (inside : tree.HasDirectory place) :
    tree.walk current top = (tree.stepsBelow place).map (tree.folder top.text place) := by
  simp only [walk, found, if_pos (any_isDirectory_iff.2 inside)]

end FileTree

namespace Command

open FileTree (Folder writtenBelow)

def filesOf (folder : Folder) : List (Text × Text) :=
  (folder.files.mergeSort Text.atMost).map fun name => (folder.text, name)

def listing (tree : FileTree) (current : Location) (top : Path) : List (Text × Text) :=
  (((tree.walk current top).mergeSort fun a b => Text.atMost a.text b.text).filter fun folder =>
    folderName folder.text != ("gen" : Text)).flatMap filesOf

/-- One file comes before another in every search. -/
def Before (first second : Text × Text) : Prop :=
  first ≠ second ∧ (first.1 ≠ second.1 ∧ Text.atMost first.1 second.1 = true ∨
    first.1 = second.1 ∧ Text.atMost first.2 second.2 = true)

instance : Std.Irrefl Before := ⟨fun _ before => before.1 rfl⟩

instance : Std.Antisymm Before where
  antisymm first second before after := by
    refine absurd ?_ before.1
    rcases before.2 with ⟨apart, early⟩ | ⟨same, early⟩
    · rcases after.2 with ⟨-, late⟩ | ⟨same, -⟩
      · exact absurd (Text.atMost_antisymm early late) apart
      · exact absurd same.symm apart
    · rcases after.2 with ⟨apart, -⟩ | ⟨-, late⟩
      · exact absurd same.symm apart
      · exact Prod.ext same (Text.atMost_antisymm early late)

theorem mem_filesOf_iff {folder : Folder} {file : Text × Text} :
    file ∈ filesOf folder ↔ file.1 = folder.text ∧ file.2 ∈ folder.files := by
  rw [filesOf, List.mem_map]
  constructor
  · rintro ⟨name, member, rfl⟩
    exact ⟨rfl, List.mem_mergeSort.1 member⟩
  · rintro ⟨same, member⟩
    exact ⟨file.2, List.mem_mergeSort.2 member, by rw [← same]⟩

theorem pairwise_filesOf {folder : Folder} (distinct : folder.files.Nodup) :
    (filesOf folder).Pairwise Before := by
  have sorted := @List.pairwise_mergeSort _ Text.atMost (fun _ _ _ => Text.atMost_trans)
    Text.atMost_total folder.files
  have apart : (folder.files.mergeSort Text.atMost).Nodup :=
    (List.mergeSort_perm _ _).nodup_iff.2 distinct
  refine List.pairwise_map.2 ((sorted.and apart).imp ?_)
  rintro first second ⟨early, ne⟩
  exact ⟨fun same => ne (congrArg Prod.snd same), .inr ⟨rfl, early⟩⟩

/-- A search of a tree that is in order already. -/
theorem listing_of_sorted {tree : FileTree} {current : Location} {top : Path}
    (folders : (tree.walk current top).Pairwise fun a b => Text.atMost a.text b.text = true)
    (files : ∀ folder ∈ tree.walk current top,
      folder.files.Pairwise fun a b => Text.atMost a b = true) :
    listing tree current top = ((tree.walk current top).filter fun folder =>
      folderName folder.text != ("gen" : Text)).flatMap fun folder =>
        folder.files.map fun name => (folder.text, name) := by
  rw [listing, List.mergeSort_of_pairwise folders]
  refine List.flatMap_congr fun folder member => ?_
  rw [filesOf, List.mergeSort_of_pairwise (files folder (List.mem_of_mem_filter member))]

section Located

variable {tree : FileTree} {current place : Location} {top : Path} {name text : Text}
  {steps : List Text} (found : tree.locate .status current top = .ok place)
  (inside : tree.HasDirectory place)
include found inside

/-- A search comes to a file exactly when its directory is below the top and not for generated
files, and it leads to no directory. -/
theorem mem_listing_iff :
    (text, name) ∈ listing tree current top ↔ ∃ steps, tree.HasDirectory (place ++ steps) ∧
      text = writtenBelow top.text steps ∧ folderName text ≠ ("gen" : Text) ∧
      tree.look (place ++ steps ++ [name]) ≠ none ∧
      tree.isDirectory (place ++ steps) ⟨0, [name]⟩ = false := by
  rw [listing, List.mem_flatMap]
  simp only [List.mem_filter, List.mem_mergeSort, FileTree.walk_eq found inside, mem_filesOf_iff,
    List.mem_map, FileTree.mem_stepsBelow_iff inside, bne_iff_ne]
  constructor
  · rintro ⟨_, ⟨⟨steps, below, rfl⟩, searched⟩, rfl, member⟩
    obtain ⟨named, plain⟩ := List.mem_filter.1 member
    exact ⟨steps, below, rfl, searched, FileTree.mem_names_iff.1 named, by simpa using plain⟩
  · rintro ⟨steps, below, rfl, searched, present, plain⟩
    refine ⟨_, ⟨⟨steps, below, rfl⟩, searched⟩, rfl, List.mem_filter.2 ⟨?_, ?_⟩⟩
    · exact FileTree.mem_names_iff.2 present
    · simpa using plain

theorem pairwise_listing (wellFormed : tree.WellFormed) (written : top.IsWritten) :
    (listing tree current top).Pairwise Before := by
  -- folders are written differently when they are different
  have apart : (tree.walk current top).Pairwise fun a b => a.text ≠ b.text := by
    rw [FileTree.walk_eq found inside, List.pairwise_map]
    refine (FileTree.nodup_stepsBelow tree place).imp_of_mem ?_
    intro first second memberFirst memberSecond ne same
    rw [FileTree.mem_stepsBelow_iff inside] at memberFirst memberSecond
    exact ne (written.writtenBelow_injective (wellFormed.isName_of_mem memberFirst.present)
      (wellFormed.isName_of_mem memberSecond.present) same)
  have sorted := @List.pairwise_mergeSort _ (fun a b : Folder => Text.atMost a.text b.text)
    (fun _ _ _ => Text.atMost_trans) (fun _ _ => Text.atMost_total _ _) (tree.walk current top)
  have apartSorted := (List.mergeSort_perm (tree.walk current top) fun a b =>
    Text.atMost a.text b.text).pairwise_iff (fun ne => Ne.symm ne) |>.2 apart
  rw [listing, List.pairwise_flatMap]
  constructor
  · intro folder member
    obtain ⟨searched, -⟩ := List.mem_filter.1 member
    rw [List.mem_mergeSort, FileTree.walk_eq found inside] at searched
    obtain ⟨steps, -, rfl⟩ := List.mem_map.1 searched
    exact pairwise_filesOf ((FileTree.nodup_names tree _).filter _)
  · refine ((sorted.and apartSorted).filter _).imp ?_
    rintro first second ⟨early, ne⟩ file member other memberOther
    obtain ⟨here, -⟩ := mem_filesOf_iff.1 member
    obtain ⟨there, -⟩ := mem_filesOf_iff.1 memberOther
    have texts : file.1 ≠ other.1 := here ▸ there ▸ ne
    exact ⟨fun same => texts (congrArg Prod.fst same), .inl ⟨texts, here ▸ there ▸ early⟩⟩

end Located

/-- What a file below the top leads to, seen from its directory. -/
theorem leads_of_locate_below {tree : FileTree} {current place last : Location} {top : Path}
    {name : Text} {steps : List Text} (found : tree.locate .status current top = .ok place)
    (wellFormed : tree.WellFormed) (below : tree.HasDirectory (place ++ steps))
    (reached : tree.locate .status current ⟨top.slashes, top.parts ++ (steps ++ [name])⟩ =
      .ok last) :
    FileTree.Leads tree FileTree.linkLimit (place ++ steps) [name] last := by
  obtain ⟨-, leads⟩ := FileTree.locate_eq_ok_iff.1 reached
  obtain ⟨middle, spared, within, above, -, onward⟩ := FileTree.Leads.split _ _ _ leads (by simp)
  -- the top is found in one way only
  have same : middle = place :=
    Except.ok.inj (above.locateFrom.symm.trans (FileTree.locate_eq_ok_iff.1 found).2.locateFrom)
  rw [same, wellFormed.leads_below_iff below] at onward
  exact onward.mono within

theorem locate_below {tree : FileTree} {current place : Location} {top : Path}
    {name : Text} {steps : List Text} {entry : Entry}
    (found : tree.locate .status current top = .ok place) (wellFormed : tree.WellFormed)
    (there : tree.look (place ++ steps ++ [name]) = some entry)
    (solid : ∀ target, entry ≠ .link target) :
    tree.locate .status current ⟨top.slashes, top.parts ++ (steps ++ [name])⟩ =
      .ok (place ++ steps ++ [name]) := by
  obtain ⟨nameable, above⟩ := FileTree.locate_eq_ok_iff.1 found
  have present : tree.look (place ++ steps ++ [name]) ≠ none := there ▸ nofun
  have below := wellFormed.inside _ _ present
  have named := wellFormed.named _ _ present
  refine FileTree.locate_eq_ok_iff.2 ⟨?_, above.append ((wellFormed.leads_below_iff below).2 ?_)⟩
  · rw [List.append_assoc] at present
    rw [Path.isNameable, List.all_append, Bool.and_eq_true]
    refine ⟨nameable, List.all_eq_true.2 fun step member => ?_⟩
    simpa using (wellFormed.isName_of_mem present step member).null
  · exact .into below named.step there solid .here

def pathOf (file : Text × Text) : Path := (Path.ofText file.1).child file.2

theorem pathOf_below {tree : FileTree} {place : Location} {top : Path} {name : Text}
    {steps : List Text} (wellFormed : tree.WellFormed) (written : top.IsWritten)
    (present : tree.look (place ++ steps ++ [name]) ≠ none) :
    pathOf (writtenBelow top.text steps, name) =
      ⟨top.slashes, top.parts ++ (steps ++ [name])⟩ := by
  rw [List.append_assoc] at present
  have named := wellFormed.isName_of_mem present
  rw [pathOf, Path.child_of_isName (named name (by simp)),
    written.ofText_writtenBelow fun step member => named step (by simp [member]),
    List.append_assoc]

/-- What a search comes to and has a time is a file. -/
theorem file_of_modified {tree : FileTree} {current place : Location} {top : Path}
    {file : Text × Text} {time : Int} (found : tree.locate .status current top = .ok place)
    (inside : tree.HasDirectory place) (wellFormed : tree.WellFormed) (written : top.IsWritten)
    (member : file ∈ listing tree current top)
    (known : tree.modified current (pathOf file) = .ok time) :
    ∃ last content, tree.locate .status current (pathOf file) = .ok last ∧
      tree.look last = some (.file content time) := by
  obtain ⟨text, name⟩ := file
  obtain ⟨entry, leads, dated⟩ := FileTree.modified_eq_ok_iff.1 known
  obtain ⟨last, reached, there⟩ := FileTree.status_eq_ok_iff.1 leads
  cases entry with
  | file content modified =>
    cases dated
    exact ⟨last, content, reached, FileTree.look_eq_file_iff.2 there⟩
  | link target => cases dated
  | directory modified =>
    obtain ⟨steps, below, rfl, -, present, plain⟩ := (mem_listing_iff found inside).1 member
    rw [pathOf_below wellFormed written present] at reached
    have onward := leads_of_locate_below found wellFormed below reached
    have nameable := (FileTree.locate_eq_ok_iff.1 reached).1
    simp only [Path.isNameable, List.all_append, Bool.and_eq_true] at nameable
    have entered : tree.isDirectory (place ++ steps) ⟨0, [name]⟩ = true :=
      FileTree.isDirectory_eq_true_iff.2 ⟨last, FileTree.locate_eq_ok_iff.2
        ⟨nameable.2.2, onward⟩, FileTree.hasDirectory_iff.2 ⟨modified, there⟩⟩
    rw [plain] at entered
    cases entered

end Command
end ShaderInterface
