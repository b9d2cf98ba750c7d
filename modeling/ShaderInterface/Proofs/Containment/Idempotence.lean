import ShaderInterface.Proofs.Containment.Ways

set_option autoImplicit false

namespace ShaderInterface

variable {structs flat : StructTable} {fields : List Field}

/-- Fields whose types are no structs of the table stand for themselves. -/
theorem Field.expandAll_of_leaves (leaves : ∀ field ∈ fields, field.typeName ∉ flat)
    (naming : ChildNaming) (order : ChildOrder) :
    expandAll flat naming order fields = fields := by
  have alone : ∀ field ∈ fields, expand flat naming order field = [field] := by
    intro field member
    rw [expand, Table.find?_eq_none_iff.2 (leaves field member)]
  rw [expandAll, List.flatMap_congr alone, List.flatMap_singleton']

namespace StructTable

variable {order : ChildOrder}

/-- No field of a struct has a struct of the table as its type. -/
def IsFlat (structs : StructTable) : Prop :=
  ∀ name fields, structs.find? name = some fields → ∀ field ∈ fields, field.typeName ∉ structs

theorem IsFlat.not_contains (isFlat : IsFlat structs) (outer inner : Text) :
    ¬Contains structs outer inner := by
  rintro ⟨known, fields, declared, field, member, rfl⟩
  exact isFlat outer fields declared field member known

theorem IsFlat.not_recursive (isFlat : IsFlat structs) : ¬Recursive structs := by
  rintro ⟨name, loop⟩
  obtain ⟨next, edge, -⟩ := Relation.TransGen.head'_iff.1 loop
  exact isFlat.not_contains name next edge

/-- What flattening gives is flat. -/
theorem Flattened.isFlat (flattened : Flattened structs order flat)
    (grounded : ∀ name ∈ structs, Grounded structs name) : IsFlat flat := by
  intro name fields found
  have known : name ∈ structs := flattened.mem_iff.1 (Table.mem_of_find? found)
  refine flattened.forall_types (P := fun typeName => typeName ∉ flat) ?_ (grounded name known)
    fields found
  intro _ _ _ field _ undeclared
  exact fun member => undeclared (flattened.mem_iff.1 member)

/-- Flattening leaves a table as it is exactly when the table is flat. -/
theorem flatten_eq_self_iff : structs.flatten order = .ok structs ↔ IsFlat structs := by
  constructor
  · intro success
    obtain ⟨flattened, grounded⟩ := flatten_ok success
    exact flattened.isFlat grounded
  · intro isFlat
    obtain ⟨flat, success⟩ := exists_flatten isFlat.not_recursive order
    obtain ⟨flattened, -⟩ := flatten_ok success
    have unchanged : flat = structs := by
      refine Table.ext_find? flattened.keys fun name member => ?_
      obtain ⟨fields, declared⟩ := Table.mem_iff_exists_find?.1 (flattened.mem_iff.1 member)
      have leaves : ∀ field ∈ fields, field.typeName ∉ flat := by
        intro field inFields inFlat
        exact isFlat name fields declared field inFields (flattened.mem_iff.1 inFlat)
      rw [flattened.entry declared, Field.expandAll_of_leaves leaves, declared]
    rw [success, unchanged]

/-- In a flat table, what fields stand for has nothing more to inline. -/
theorem IsFlat.expandAll_expandAll (isFlat : IsFlat flat) (naming again : ChildNaming)
    (order next : ChildOrder) (fields : List Field) :
    Field.expandAll flat again next (Field.expandAll flat naming order fields) =
      Field.expandAll flat naming order fields := by
  apply Field.expandAll_of_leaves
  apply forall_types_expandAll (P := fun typeName => typeName ∉ flat)
  · exact fun _ _ absent => absent
  · exact fun field _ children found => isFlat field.typeName children found

/-- A table that was flattened in any order is left as it is in every order, and what fields stand
for in it stands for itself, whatever the names and orders of both times. -/
theorem flatten_idempotent {structs : StructTable} (acyclic : ¬Recursive structs)
    (order : ChildOrder) :
    ∃ flat, structs.flatten order = .ok flat ∧ (∀ next, flat.flatten next = .ok flat) ∧
      ∀ (naming again : ChildNaming) (first second : ChildOrder) (fields : List Field),
        Field.expandAll flat again second (Field.expandAll flat naming first fields) =
          Field.expandAll flat naming first fields := by
  obtain ⟨flat, success⟩ := exists_flatten acyclic order
  obtain ⟨flattened, grounded⟩ := flatten_ok success
  have isFlat : IsFlat flat := flattened.isFlat grounded
  refine ⟨flat, success, fun next => flatten_eq_self_iff.2 isFlat, ?_⟩
  intro naming again first second fields
  exact isFlat.expandAll_expandAll naming again first second fields

theorem flatten_idempotent_shared :
    ¬Recursive shared ∧ shared.flatten .reversed = .ok sharedFlat ∧
      (∀ next, sharedFlat.flatten next = .ok sharedFlat) ∧
      ∀ (naming again : ChildNaming) (first second : ChildOrder) (fields : List Field),
        Field.expandAll sharedFlat again second (Field.expandAll sharedFlat naming first fields) =
          Field.expandAll sharedFlat naming first fields := by
  have acyclic : ¬Recursive shared := not_recursive_of_flatten_ok flatten_shared
  obtain ⟨flat, success, unchanged, inlined⟩ := flatten_idempotent acyclic .reversed
  obtain rfl : sharedFlat = flat := Except.ok.inj (flatten_shared.symm.trans success)
  exact ⟨acyclic, flatten_shared, unchanged, inlined⟩

end StructTable
end ShaderInterface
