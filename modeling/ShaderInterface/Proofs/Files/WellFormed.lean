import Mathlib.Data.List.Induction
import ShaderInterface.Proofs.Fallible
import ShaderInterface.Proofs.Files.Lookup
import ShaderInterface.Proofs.Table.Laws

set_option autoImplicit false

namespace ShaderInterface

/-- What a link leads to. -/
def Entry.target? : Entry → Option Text
  | .link target => some target
  | _ => none

namespace FileTree

/-- Whatever has a name lies in a directory, and neither names nor targets have null characters. -/
structure WellFormed (tree : FileTree) : Prop where
  named : ∀ place name, tree.look (place ++ [name]) ≠ none → IsName name
  inside : ∀ place name, tree.look (place ++ [name]) ≠ none → tree.HasDirectory place
  linked : ∀ place target, tree.look place = some (.link target) → '\x00' ∉ target

/-- The second tree is the first with a change at one place. -/
def Changed (tree : FileTree) (place : Location) (entry : Option Entry) (other : FileTree) : Prop :=
  ∀ elsewhere, other.look elsewhere = if elsewhere = place then entry else tree.look elsewhere

variable {tree other : FileTree} {purpose : Purpose} {links : Nat} {place last current : Location}
  {steps parts : List Text} {path : Path} {entry : Entry} {now : Int}

theorem ne_root_of_not_hasDirectory (outside : ¬tree.HasDirectory place) : place ≠ [] := by
  rintro rfl
  exact outside hasDirectory_root

namespace WellFormed

variable (wellFormed : tree.WellFormed)
include wellFormed

theorem isName_of_mem (present : tree.look (place ++ steps) ≠ none) :
    ∀ step ∈ steps, IsName step := by
  induction steps using List.reverseRecOn with
  | nil => simp
  | append_singleton steps step ih =>
    rw [← List.append_assoc] at present
    have above := wellFormed.inside _ _ present
    intro name member
    rcases List.mem_append.1 member with earlier | final
    · exact ih above.present name earlier
    · exact List.mem_singleton.1 final ▸ wellFormed.named _ _ present

/-- What lies above something is a directory. -/
theorem hasDirectory_above (present : tree.look (place ++ steps) ≠ none) (below : steps ≠ []) :
    tree.HasDirectory place := by
  induction steps using List.reverseRecOn with
  | nil => exact absurd rfl below
  | append_singleton steps step ih =>
    rw [← List.append_assoc] at present
    have above := wellFormed.inside _ _ present
    cases steps with
    | nil => rwa [List.append_nil] at above
    | cons => exact ih above.present (List.cons_ne_nil _ _)

theorem hasDirectory_dropLast (present : tree.look place ≠ none) :
    tree.HasDirectory place.dropLast := by
  rcases List.eq_nil_or_concat place with rfl | ⟨parent, name, rfl⟩
  · exact hasDirectory_root
  · rw [List.concat_eq_append, List.dropLast_concat]
    rw [List.concat_eq_append] at present
    exact wellFormed.inside parent name present

theorem isStep_of_mem (present : tree.look (place ++ steps) ≠ none) :
    ∀ step ∈ steps, IsStep step :=
  fun step member => (wellFormed.isName_of_mem present step member).step

/-- The steps down to a directory can be taken one by one. -/
theorem leads_below_iff (inside : tree.HasDirectory (place ++ steps)) :
    Leads tree links place (steps ++ parts) last ↔
      Leads tree links (place ++ steps) parts last := by
  induction steps generalizing place with
  | nil => rw [List.nil_append, List.append_nil]
  | cons name steps ih =>
    have here : tree.HasDirectory place :=
      wellFormed.hasDirectory_above inside.present (List.cons_ne_nil _ _)
    have step : IsStep name := wellFormed.isStep_of_mem inside.present name (by simp)
    rw [List.append_cons] at inside
    have next : tree.HasDirectory (place ++ [name]) := by
      cases steps with
      | nil => rwa [List.append_nil] at inside
      | cons => exact wellFormed.hasDirectory_above inside.present (List.cons_ne_nil _ _)
    rw [List.append_cons place, ← ih inside, List.cons_append]
    generalize steps ++ parts = onward
    constructor
    · intro leads
      rcases leads.of_step step with ⟨_, _, linked, _⟩ | ⟨_, onward⟩
      · rw [next] at linked
        cases linked
      · exact onward
    · intro leads
      exact .into here step next nofun leads

/-- A path leads to a directory, or to a name in a directory that is no link. -/
theorem leads_end (leads : Leads tree links place parts last) (start : tree.HasDirectory place)
    (plain : ∀ part ∈ parts, '/' ∉ part ∧ '\x00' ∉ part) :
    tree.HasDirectory last ∨ ∃ parent name, last = parent ++ [name] ∧ tree.HasDirectory parent ∧
      IsName name ∧ ∀ target, tree.look last ≠ some (.link target) := by
  induction leads with
  | here => exact .inl start
  | idle _ _ _ ih => exact ih start fun part member => plain part (by simp [member])
  | up inside _ ih =>
    exact ih (wellFormed.hasDirectory_dropLast inside.present)
      fun part member => plain part (by simp [member])
  | @through _ place _ _ target rest inside _ found _ ih =>
    refine ih ?_ ?_
    · rw [targetBase]
      split
      · exact hasDirectory_root
      · exact inside
    · intro part member
      rcases List.mem_append.1 member with inTarget | behind
      · have chars := Path.mem_of_mem_targetParts inTarget
        exact ⟨fun slash => (chars _ slash).2 rfl,
          fun null => wellFormed.linked _ _ found (chars _ null).1⟩
      · exact plain part (List.mem_cons_of_mem _ behind)
  | @into _ place _ part _ entry inside step found solid onward ih =>
    by_cases further : tree.HasDirectory (place ++ [part])
    · exact ih further fun part member => plain part (by simp [member])
    · obtain rfl := onward.eq_nil_of_outside further
      obtain rfl := onward.eq_of_nil
      obtain ⟨slash, null⟩ := plain part (by simp)
      refine .inr ⟨place, part, rfl, inside, ⟨step, slash, null⟩, fun target linked => ?_⟩
      exact solid target (Option.some.inj (found.symm.trans linked))
  | @fresh _ place part inside step absent =>
    obtain ⟨slash, null⟩ := plain part (by simp)
    exact .inr ⟨place, part, rfl, inside, ⟨step, slash, null⟩, by simp [absent]⟩

end WellFormed

theorem entry?_of_ne_root (below : place ≠ []) : tree.entry? place = tree.find? place :=
  if_neg below

/-- A check of each entry that makes a tree well-formed. -/
theorem wellFormed_of_entries
    (named : ∀ found ∈ tree.entries, ∀ name ∈ found.1.getLast?, IsName name)
    (inside : ∀ found ∈ tree.entries, (tree.entry? found.1.dropLast).any Entry.isDirectory = true)
    (linked : ∀ found ∈ tree.entries, ∀ target ∈ found.2.target?, '\x00' ∉ target) :
    tree.WellFormed := by
  have listed : ∀ place name, tree.look (place ++ [name]) ≠ none →
      ∃ entry, (place ++ [name], entry) ∈ tree.entries := by
    intro place name present
    rw [Ne, look_eq_none_iff, entry?_of_ne_root (by simp)] at present
    obtain ⟨entry, found⟩ := Option.ne_none_iff_exists'.1 present
    exact ⟨entry, Table.find?_eq_some_iff.1 found⟩
  refine ⟨fun place name present => ?_, fun place name present => ?_, fun place target found => ?_⟩
  · obtain ⟨entry, member⟩ := listed place name present
    exact named _ member name (by simp)
  · obtain ⟨entry, member⟩ := listed place name present
    simpa [any_isDirectory_iff] using inside _ member
  · have here := look_eq_link_iff.1 found
    by_cases root : place = []
    · rw [root] at here
      cases here
    · rw [entry?_of_ne_root root] at here
      exact linked _ (Table.find?_eq_some_iff.1 here) target rfl

/-- The time of a directory is not part of what is there. -/
theorem look_touch (inside : tree.HasDirectory place) (elsewhere : Location) :
    look (tree.modify place (Entry.touch now)) elsewhere = tree.look elsewhere := by
  by_cases root : elsewhere = []
  · rw [look, look, root]
    rfl
  · rw [look, look, entry?_of_ne_root root, entry?_of_ne_root root, Table.find?_modify,
      Option.map_map]
    by_cases same : elsewhere = place
    · obtain ⟨time, found⟩ := hasDirectory_iff.1 inside
      rw [← same, entry?_of_ne_root root] at found
      rw [found]
      simp [same, Entry.touch, Entry.timeless]
    · simp [same, Function.comp_def]

theorem insert_changed (below : place ≠ []) (entry : Entry) :
    Changed tree place (some entry.timeless) (tree.insert place entry) := by
  intro elsewhere
  by_cases root : elsewhere = []
  · rw [look, look, root, if_neg below.symm]
    rfl
  · rw [look, look, entry?_of_ne_root root, entry?_of_ne_root root]
    split
    · next same => rw [same, Table.find?_insert_self, Option.map_some]
    · next other => rw [Table.find?_insert_of_ne _ _ other]

theorem erase_changed (tree : FileTree) (below : place ≠ []) :
    Changed tree place none (tree.erase place) := by
  intro elsewhere
  by_cases root : elsewhere = []
  · rw [look, look, root, if_neg below.symm]
    rfl
  · rw [look, look, entry?_of_ne_root root, entry?_of_ne_root root, Table.find?_erase]
    split <;> rfl

theorem Changed.hasDirectory {change : Option Entry} (changed : Changed tree place change other)
    (keeps : tree.HasDirectory place → change = some (.directory 0)) {elsewhere : Location}
    (inside : tree.HasDirectory elsewhere) : other.HasDirectory elsewhere := by
  rw [HasDirectory, changed]
  split
  · next same => exact keeps (same ▸ inside)
  · exact inside

theorem create_changed {parent : Location} (inside : tree.HasDirectory parent) (name : Text)
    (entry : Entry) (now : Int) :
    Changed tree (parent ++ [name]) (some entry.timeless)
      (tree.create now (parent ++ [name]) entry) := by
  intro elsewhere
  rw [create, insert_changed (by simp), List.dropLast_concat, look_touch inside]

theorem write_eq_ok_iff {content : ByteArray} :
    tree.write now current path content = .ok other ↔
      ∃ place, tree.locate .file current path = .ok place ∧ ¬tree.HasDirectory place ∧
        (if tree.look place = none then tree.create now place (.file content now)
          else tree.insert place (.file content now)) = other := by
  refine Fallible.bind_eq_ok_iff.trans (exists_congr fun place => and_congr_right fun _ => ?_)
  simp only [hasDirectory_iff, look_eq_none_iff]
  cases tree.entry? place with
  | none => simp
  | some entry => cases entry <;> simp

theorem makeDirectory_eq_ok_iff :
    tree.makeDirectory now current path = .ok other ↔
      ∃ place, tree.locate .entry current path = .ok place ∧ tree.look place = none ∧
        tree.create now place (.directory now) = other := by
  refine Fallible.bind_eq_ok_iff.trans (exists_congr fun place => and_congr_right fun _ => ?_)
  rw [look_eq_none_iff]
  cases tree.entry? place <;> simp

theorem remove_eq_ok_iff :
    tree.remove now current path = .ok other ↔
      ∃ place, tree.locate .entry current path = .ok place ∧ tree.look place ≠ none ∧
        ¬tree.HasDirectory place ∧
        (tree.erase place).modify place.dropLast (Entry.touch now) = other := by
  refine Fallible.bind_eq_ok_iff.trans (exists_congr fun place => and_congr_right fun _ => ?_)
  rw [hasDirectory_iff, ne_eq, look_eq_none_iff]
  cases tree.entry? place with
  | none => simp
  | some entry => cases entry <;> simp

/-- A change under a proper name in a directory keeps the tree well-formed, unless it takes a
directory away. -/
theorem Changed.wellFormed {parent : Location} {name : Text} {change : Option Entry}
    (changed : Changed tree (parent ++ [name]) change other) (wellFormed : tree.WellFormed)
    (inside : tree.HasDirectory parent) (named : IsName name)
    (keeps : tree.HasDirectory (parent ++ [name]) → change = some (.directory 0))
    (unlinked : ∀ target, change ≠ some (.link target)) : other.WellFormed where
  named place child present := by
    rw [changed] at present
    split at present
    · next same => exact (List.append_inj_right' same rfl |> List.singleton_inj.1) ▸ named
    · exact wellFormed.named place child present
  inside place child present := by
    apply changed.hasDirectory keeps
    rw [changed] at present
    split at present
    · next same => exact List.append_inj_left' same rfl ▸ inside
    · exact wellFormed.inside place child present
  linked place target found := by
    rw [changed] at found
    split at found
    · exact absurd found (unlinked target)
    · exact wellFormed.linked place target found

namespace WellFormed

variable (wellFormed : tree.WellFormed)
include wellFormed

theorem locate_end (found : tree.locate .status current path = .ok place)
    (start : tree.HasDirectory current) (written : path.IsWritten)
    (outside : ¬tree.HasDirectory place) :
    ∃ parent name, place = parent ++ [name] ∧ tree.HasDirectory parent ∧ IsName name ∧
      ∀ target, tree.look place ≠ some (.link target) := by
  obtain ⟨nameable, leads⟩ := locate_eq_ok_iff.1 found
  refine (wellFormed.leads_end leads (start.start path) fun part member => ?_).resolve_left outside
  exact ⟨(written.parts part member).2.2, Path.not_mem_null nameable member⟩

theorem parent_of_ne_root (present : tree.look place ≠ none) (below : place ≠ []) :
    ∃ parent name, place = parent ++ [name] ∧ tree.HasDirectory parent ∧ IsName name := by
  obtain ⟨parent, name, rfl⟩ := (List.eq_nil_or_concat' place).resolve_left below
  exact ⟨parent, name, rfl, wellFormed.inside parent name present,
    wellFormed.named parent name present⟩

/-- What is written is a file that is new or in the place of another. -/
theorem write_ok {content : ByteArray} (start : tree.HasDirectory current)
    (written : path.IsWritten) (success : tree.write now current path content = .ok other) :
    ∃ place, tree.locate .status current path = .ok place ∧ ¬tree.HasDirectory place ∧
      (∀ target, tree.look place ≠ some (.link target)) ∧
      Changed tree place (some (.file content now)) other ∧ other.WellFormed := by
  obtain ⟨place, found, outside, rfl⟩ := write_eq_ok_iff.1 success
  have reached := locate_status found nofun
  obtain ⟨parent, name, rfl, inside, named, solid⟩ :=
    wellFormed.locate_end reached start written outside
  have changed : Changed tree (parent ++ [name]) (some (.file content now))
      (if tree.look (parent ++ [name]) = none then
        tree.create now (parent ++ [name]) (.file content now)
      else tree.insert (parent ++ [name]) (.file content now)) := by
    split
    · exact create_changed inside name (.file content now) now
    · exact insert_changed (by simp) (.file content now)
  exact ⟨_, reached, outside, solid, changed,
    changed.wellFormed wellFormed inside named (absurd · outside) nofun⟩

/-- A directory is made where nothing was. -/
theorem makeDirectory_ok (start : tree.HasDirectory current) (written : path.IsWritten)
    (success : tree.makeDirectory now current path = .ok other) :
    ∃ place, tree.locate .status current path = .ok place ∧ tree.look place = none ∧
      Changed tree place (some (.directory 0)) other ∧ other.WellFormed := by
  obtain ⟨place, found, absent, rfl⟩ := makeDirectory_eq_ok_iff.1 success
  have reached := locate_status found fun _ target => by simp [absent]
  obtain ⟨parent, name, rfl, inside, named, -⟩ :=
    wellFormed.locate_end reached start written fun directory => directory.present absent
  have changed := create_changed inside name (.directory now) now
  exact ⟨_, reached, absent, changed,
    changed.wellFormed wellFormed inside named (fun _ => rfl) nofun⟩

/-- What is removed is no directory. -/
theorem remove_ok (success : tree.remove now current path = .ok other) :
    ∃ place, ¬tree.HasDirectory place ∧ Changed tree place none other ∧ other.WellFormed := by
  obtain ⟨place, -, present, outside, rfl⟩ := remove_eq_ok_iff.1 success
  have below := ne_root_of_not_hasDirectory outside
  obtain ⟨parent, name, rfl, inside, named⟩ := wellFormed.parent_of_ne_root present below
  have erased := erase_changed tree below
  have kept := erased.hasDirectory (fun directory => absurd directory outside) inside
  have changed : Changed tree (parent ++ [name]) none
      ((tree.erase (parent ++ [name])).modify (parent ++ [name]).dropLast (Entry.touch now)) := by
    intro elsewhere
    rw [List.dropLast_concat, look_touch kept, erased]
  exact ⟨_, outside, changed,
    changed.wellFormed wellFormed inside named (absurd · outside) nofun⟩

end WellFormed
end FileTree
end ShaderInterface
