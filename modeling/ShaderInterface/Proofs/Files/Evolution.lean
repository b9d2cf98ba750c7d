import ShaderInterface.Proofs.Files.WellFormed

set_option autoImplicit false

namespace ShaderInterface.FileTree

/-- The second tree can have come from the first, where each new file is a fresh one. -/
structure Evolved (fresh : Location → Int → Prop) (tree later : FileTree) : Prop where
  directories : ∀ place, tree.HasDirectory place → later.HasDirectory place
  links : ∀ place target,
    later.look place = some (.link target) → tree.look place = some (.link target)
  apart : ∀ place target, later.HasDirectory place → tree.look place ≠ some (.link target)
  files : ∀ place content time, later.look place = some (.file content time) →
    fresh place time ∨ tree.look place = some (.file content time)

/-- What can become of a tree when files are written later than `limit`, directories are made, and
files and links are removed. No directory is made where a link was. -/
inductive Edited (start : FileTree) (current : Location) (limit : Int) : FileTree → Prop where
  | start : Edited start current limit start
  | write {tree next : FileTree} {time : Int} (path : Text) (content : ByteArray)
      (before : Edited start current limit tree) (late : limit < time)
      (done : tree.write time current (Path.ofText path) content = .ok next) :
      Edited start current limit next
  | makeDirectory {tree next : FileTree} {time : Int} (path : Text)
      (before : Edited start current limit tree)
      (done : tree.makeDirectory time current (Path.ofText path) = .ok next)
      (apart : ∀ place target, next.HasDirectory place → start.look place ≠ some (.link target)) :
      Edited start current limit next
  | remove {tree next : FileTree} {time : Int} (path : Text)
      (before : Edited start current limit tree)
      (done : tree.remove time current (Path.ofText path) = .ok next) :
      Edited start current limit next

variable {fresh : Location → Int → Prop} {tree later other : FileTree} {current : Location}
  {links : Nat} {place last : Location} {path : Path} {limit : Int}

namespace Evolved

theorem refl (tree : FileTree) : Evolved fresh tree tree where
  directories _ inside := inside
  links _ _ found := found
  apart place target inside found := by simp [HasDirectory, found] at inside
  files _ _ _ found := .inr found

/-- A path leads to the same place as before, unless a link was there. -/
theorem agree (evolved : Evolved fresh tree later) {parts : List Text} {more : Nat}
    {lastBefore : Location} (leads : Leads later links place parts last)
    (before : Leads tree more place parts lastBefore)
    (final : ∀ target, tree.look last ≠ some (.link target)) : lastBefore = last :=
  leads.agree before evolved.links evolved.apart final

theorem locate_eq (evolved : Evolved fresh tree later)
    (found : later.locate .status current path = .ok last) {lastBefore : Location}
    (before : tree.locate .status current path = .ok lastBefore)
    (final : ∀ target, tree.look last ≠ some (.link target)) : lastBefore = last :=
  evolved.agree (locate_eq_ok_iff.1 found).2 (locate_eq_ok_iff.1 before).2 final

/-- One more change keeps to the rules if it makes no link, no directory where a link was, and no
file that is not fresh. -/
theorem changed (evolved : Evolved fresh tree later) {change : Option Entry}
    (changed : Changed later place change other)
    (keeps : later.HasDirectory place → change = some (.directory 0))
    (unlinked : ∀ target, change ≠ some (.link target))
    (apart : change = some (.directory 0) → ∀ target, tree.look place ≠ some (.link target))
    (new : ∀ content time, change = some (.file content time) → fresh place time) :
    Evolved fresh tree other where
  directories elsewhere inside := changed.hasDirectory keeps (evolved.directories _ inside)
  links elsewhere target found := by
    rw [changed] at found
    split at found
    · exact absurd found (unlinked target)
    · exact evolved.links _ _ found
  apart elsewhere target inside := by
    rw [HasDirectory, changed] at inside
    split at inside
    · next same => exact same ▸ apart inside target
    · exact evolved.apart _ _ inside
  files elsewhere content time found := by
    rw [changed] at found
    split at found
    · next same => exact .inl (same ▸ new content time found)
    · exact evolved.files _ _ _ found

/-- Writing a fresh file keeps to the rules. -/
theorem wrote (evolved : Evolved fresh tree later) {content : ByteArray} {time : Int}
    (changed : Changed later place (some (.file content time)) other)
    (outside : ¬later.HasDirectory place) (late : fresh place time) :
    Evolved fresh tree other := by
  refine evolved.changed changed (absurd · outside) (by simp) (by simp) fun _ _ same => ?_
  cases same
  exact late

end Evolved

/-- Edits keep a tree well-formed, and every file that they leave is late or was there before. -/
theorem Edited.evolved {start : FileTree} (edited : Edited start current limit tree)
    (wellFormed : start.WellFormed) (inside : start.HasDirectory current) :
    tree.WellFormed ∧ Evolved (fun _ time => limit < time) start tree := by
  induction edited with
  | start => exact ⟨wellFormed, .refl start⟩
  | write path content _ late done ih =>
    obtain ⟨kept, evolved⟩ := ih
    obtain ⟨place, -, outside, -, changed, next⟩ :=
      kept.write_ok (evolved.directories _ inside) (Path.ofText_isWritten path) done
    exact ⟨next, evolved.wrote changed outside late⟩
  | makeDirectory path _ done apart ih =>
    obtain ⟨kept, evolved⟩ := ih
    obtain ⟨place, -, -, changed, next⟩ :=
      kept.makeDirectory_ok (evolved.directories _ inside) (Path.ofText_isWritten path) done
    refine ⟨next, evolved.changed changed (fun _ => rfl) (by simp) (fun _ target => ?_) (by simp)⟩
    exact apart _ target (by rw [HasDirectory, changed, if_pos rfl])
  | remove path _ done ih =>
    obtain ⟨kept, evolved⟩ := ih
    obtain ⟨place, outside, changed, next⟩ := kept.remove_ok done
    exact ⟨next, evolved.changed changed (absurd · outside) (by simp) (by simp) (by simp)⟩

section

variable {content : ByteArray} {time : Int}
  (changed : Changed tree place (some (.file content time)) other)
  (outside : ¬tree.HasDirectory place)
include changed outside

theorem Changed.hasDirectory_iff {elsewhere : Location} :
    other.HasDirectory elsewhere ↔ tree.HasDirectory elsewhere := by
  rw [HasDirectory, HasDirectory, changed]
  split
  · next same => simpa [same, HasDirectory] using outside
  · rfl

variable (solid : ∀ target, tree.look place ≠ some (.link target))
include solid

/-- A file written where no directory is leaves all ways as they were. -/
theorem Changed.leads_iff {start : Location} {parts : List Text} :
    Leads other links start parts last ↔ Leads tree links start parts last := by
  have linked : ∀ elsewhere target, tree.look elsewhere = some (.link target) ↔
      other.look elsewhere = some (.link target) := by
    intro elsewhere target
    rw [changed]
    split
    · next same => simp [same, solid]
    · rfl
  constructor
  · intro leads
    exact leads.transfer (fun _ _ => (linked _ _).symm) fun _ =>
      (changed.hasDirectory_iff outside).1
  · intro leads
    exact leads.transfer linked fun _ => (changed.hasDirectory_iff outside).2

theorem Changed.locate_iff :
    other.locate .status current path = .ok last ↔
      tree.locate .status current path = .ok last := by
  rw [locate_eq_ok_iff, locate_eq_ok_iff, changed.leads_iff outside solid]

theorem Changed.isDirectory_iff :
    other.isDirectory current path = true ↔ tree.isDirectory current path = true := by
  rw [isDirectory_eq_true_iff, isDirectory_eq_true_iff]
  simp only [changed.locate_iff outside solid, changed.hasDirectory_iff outside]

/-- What was written is there. -/
theorem Changed.status_eq (reached : tree.locate .status current path = .ok place) :
    other.status current path = .ok (.file content time) :=
  status_eq_file_iff.2 ⟨place, (changed.locate_iff outside solid).2 reached,
    (changed place).trans (if_pos rfl)⟩

end

/-- A file can be written where one is. -/
theorem write_of_status {content : ByteArray} {time : Int}
    (found : tree.status current path = .ok (.file content time)) (now : Int) (bytes : ByteArray) :
    ∃ next, tree.write now current path bytes = .ok next := by
  obtain ⟨place, reached, there⟩ := status_eq_file_iff.1 found
  have outside : ¬tree.HasDirectory place := by simp [HasDirectory, there]
  exact ⟨_, write_eq_ok_iff.2 ⟨place, locate_file reached there, outside, rfl⟩⟩

end ShaderInterface.FileTree
