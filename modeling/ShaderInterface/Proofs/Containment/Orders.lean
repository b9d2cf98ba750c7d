import Mathlib.Data.List.Perm.Basic
import ShaderInterface.Proofs.Containment.Walk
import ShaderInterface.Proofs.Table.Related

set_option autoImplicit false

namespace ShaderInterface

open Fallible (Agree)

variable {order other : ChildOrder} {flat turned : StructTable}

namespace Field

theorem expand_perm (tables : Table.Related List.Perm flat turned) (naming : ChildNaming)
    (field : Field) : (expand flat naming order field).Perm (expand turned naming other field) := by
  have children := tables.find? field.typeName
  rw [expand, expand]
  generalize flat.find? field.typeName = inner, turned.find? field.typeName = outer at children ⊢
  cases children with
  | none => exact .refl [field]
  | some same =>
    apply List.Perm.map
    exact (order.arrange_perm _).trans (same.trans (other.arrange_perm _).symm)

/-- The fields that fields stand for, in tables alike up to the order of fields. -/
theorem expandAll_perm (tables : Table.Related List.Perm flat turned) (naming : ChildNaming)
    (fields : List Field) :
    (expandAll flat naming order fields).Perm (expandAll turned naming other fields) :=
  List.Perm.flatMap_left fields fun field _ => expand_perm tables naming field

end Field

namespace StructTable

variable {structs : StructTable}

/-- Two walks that start from tables alike end alike. -/
theorem flattenFrom_agree {path : List Text} {name : Text}
    (tables : Table.Related List.Perm flat turned) :
    Agree (Table.Related List.Perm) (flattenFrom structs order path name flat)
      (flattenFrom structs other path name turned) := by
  induction path, name, flat using flattenFrom.induct structs generalizing turned with
  | case1 path name flat finished =>
    rw [flattenFrom_of_finished finished, flattenFrom_of_finished (tables.mem_iff.1 finished)]
    exact .succeeded tables
  | case2 path name flat unfinished onPath =>
    have unfinished' : name ∉ turned := fun member => unfinished (tables.mem_iff.2 member)
    rw [flattenFrom_of_onPath unfinished onPath, flattenFrom_of_onPath unfinished' onPath]
    exact .failed _
  | case3 path name flat unfinished fresh undeclared =>
    have unfinished' : name ∉ turned := fun member => unfinished (tables.mem_iff.2 member)
    rw [flattenFrom_of_undeclared unfinished fresh undeclared,
      flattenFrom_of_undeclared unfinished' fresh undeclared]
    exact .succeeded tables
  | case4 path name flat unfinished fresh fields declared ih =>
    have unfinished' : name ∉ turned := fun member => unfinished (tables.mem_iff.2 member)
    rw [flattenFrom_of_declared unfinished fresh declared,
      flattenFrom_of_declared unfinished' fresh declared]
    apply Agree.map (R := Table.Related List.Perm)
    · apply Agree.foldlM _ tables
      intro inner member before behind alike
      obtain ⟨-, field, -, rfl⟩ := mem_inside_iff.1 member
      exact ih before field alike
    · intro before behind alike
      exact alike.insert name (Field.expandAll_perm alike .path fields)

/-- Flattening fails in both orders for the same reason, or gives tables alike. -/
theorem flatten_agree (structs : StructTable) (order other : ChildOrder) :
    Agree (Table.Related List.Perm) (structs.flatten order) (structs.flatten other) := by
  apply Agree.map (R := Table.Related List.Perm)
  · exact Agree.foldlM (fun name _ before behind alike => flattenFrom_agree alike) .empty
  · intro before behind alike
    refine (Table.Related.of_refl (R := fun _ _ => True) (fun _ => trivial) structs).map ?_
    intro name _ _ _
    have fields := alike.find? name
    generalize before.find? name = some?, behind.find? name = other? at fields ⊢
    cases fields with
    | none => exact .refl []
    | some same => exact same

end StructTable
end ShaderInterface
