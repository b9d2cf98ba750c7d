import ShaderInterface.Proofs.Files.WellFormed

set_option autoImplicit false

namespace ShaderInterface.FileTree

/-- The second tree is the first with new directories and nothing else. -/
def Grown (tree later : FileTree) : Prop :=
  ∀ place, later.look place = tree.look place ∨
    tree.look place = none ∧ later.HasDirectory place

variable {tree later last : FileTree} {current place : Location} {path : Path}

namespace Grown

theorem refl (tree : FileTree) : tree.Grown tree := fun _ => .inl rfl

theorem kept (grown : tree.Grown later) (present : tree.look place ≠ none) :
    later.look place = tree.look place :=
  (grown place).resolve_right fun fresh => present fresh.1

theorem directories (grown : tree.Grown later) (inside : tree.HasDirectory place) :
    later.HasDirectory place := (grown.kept inside.present).trans inside

theorem trans (first : tree.Grown later) (second : later.Grown last) : tree.Grown last := by
  intro place
  rcases first place with same | ⟨absent, fresh⟩
  · rw [← same]
    exact second place
  · exact .inr ⟨absent, second.directories fresh⟩

/-- What is no directory was there before. -/
theorem unchanged (grown : tree.Grown later) (outside : ¬later.HasDirectory place) :
    later.look place = tree.look place :=
  (grown place).resolve_right fun fresh => outside fresh.2

theorem link_iff (grown : tree.Grown later) {target : Text} :
    tree.look place = some (.link target) ↔ later.look place = some (.link target) := by
  constructor
  · intro linked
    rw [grown.kept (linked ▸ nofun), linked]
  · intro linked
    rw [← grown.unchanged (by simp [HasDirectory, linked]), linked]

/-- Where a path leads to. -/
theorem locate (grown : tree.Grown later)
    (reached : tree.locate .status current path = .ok place) :
    later.locate .status current path = .ok place := by
  obtain ⟨nameable, leads⟩ := locate_eq_ok_iff.1 reached
  exact locate_eq_ok_iff.2
    ⟨nameable, leads.transfer (fun _ _ => grown.link_iff) fun _ => grown.directories⟩

theorem isDirectory (grown : tree.Grown later) (there : tree.isDirectory current path = true) :
    later.isDirectory current path = true := by
  obtain ⟨place, reached, inside⟩ := isDirectory_eq_true_iff.1 there
  exact isDirectory_eq_true_iff.2 ⟨place, grown.locate reached, grown.directories inside⟩

end Grown

/-- Making a directory where nothing is. -/
theorem Changed.grown (changed : Changed tree place (some (.directory 0)) later)
    (absent : tree.look place = none) : tree.Grown later := by
  intro elsewhere
  rw [HasDirectory, changed]
  split
  · next same => exact .inr ⟨same ▸ absent, rfl⟩
  · exact .inl rfl

end ShaderInterface.FileTree
