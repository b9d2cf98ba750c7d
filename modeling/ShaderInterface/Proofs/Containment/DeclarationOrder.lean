import ShaderInterface.Proofs.Containment.Ways

set_option autoImplicit false

namespace ShaderInterface.StructTable

variable {structs other flat otherFlat : StructTable} {order : ChildOrder} {name : Text}

/-- The containment graph is settled by what the table finds under each name. -/
theorem contains_congr (same : ∀ name, structs.find? name = other.find? name) :
    Contains structs = Contains other := by
  have mem_iff : ∀ name, name ∈ structs ↔ name ∈ other := by
    intro name
    rw [Table.mem_iff_exists_find?, Table.mem_iff_exists_find?, same]
  funext outer inner
  rw [Contains, Contains, mem_iff, same]

theorem recursive_congr (same : ∀ name, structs.find? name = other.find? name) :
    Recursive structs ↔ Recursive other := by
  rw [Recursive, Recursive, contains_congr same]

/-- What the structs of a table find settles what the flat structs find. -/
theorem Flattened.find?_congr (flattened : Flattened structs order flat)
    (otherFlattened : Flattened other order otherFlat)
    (same : ∀ name, structs.find? name = other.find? name) (grounded : Grounded structs name) :
    flat.find? name = otherFlat.find? name := by
  apply grounded.induct
  · intro name absent
    have otherAbsent : name ∉ other := by
      rw [← Table.find?_eq_none_iff, ← same]
      exact Table.find?_eq_none_iff.2 absent
    rw [flattened.find?_of_not_mem absent, otherFlattened.find?_of_not_mem otherAbsent]
  · intro name fields declared inside
    -- both inline what they find under the types of the fields
    rw [flattened.entry declared, otherFlattened.entry ((same name).symm.trans declared),
      expandAll_congr inside]

/-- Whether flattening fails, and the fields that it gives to each struct, do not depend on the
order in which the structs are declared. -/
theorem flatten_of_perm {structs other : StructTable}
    (perm : structs.entries.Perm other.entries) (order : ChildOrder) :
    ((∃ reason, structs.flatten order = .error reason) ↔
      ∃ reason, other.flatten order = .error reason) ∧
    ∀ flat, structs.flatten order = .ok flat → ∃ otherFlat, other.flatten order = .ok otherFlat ∧
      ∀ name, flat.find? name = otherFlat.find? name := by
  have same : ∀ name, structs.find? name = other.find? name := Table.find?_eq_of_perm perm
  have recursive : Recursive structs ↔ Recursive other := recursive_congr same
  refine ⟨by rw [flatten_fails_iff, flatten_fails_iff, recursive], fun flat success => ?_⟩
  have acyclic : ¬Recursive other := fun loop =>
    not_recursive_of_flatten_ok success (recursive.2 loop)
  obtain ⟨otherFlat, otherSuccess⟩ := exists_flatten acyclic order
  obtain ⟨flattened, grounded⟩ := flatten_ok success
  obtain ⟨otherFlattened, -⟩ := flatten_ok otherSuccess
  refine ⟨otherFlat, otherSuccess, fun name => ?_⟩
  exact flattened.find?_congr otherFlattened same (grounded_of_forall grounded name)

def sharedUpward : StructTable where
  entries := shared.entries.reverse
  distinct := by decide

theorem flatten_of_perm_upward :
    shared.entries.Perm sharedUpward.entries ∧ shared.flatten .reversed = .ok sharedFlat ∧
    ((∃ reason, shared.flatten .reversed = .error reason) ↔
      ∃ reason, sharedUpward.flatten .reversed = .error reason) ∧
    ∃ otherFlat, sharedUpward.flatten .reversed = .ok otherFlat ∧
      ∀ name, sharedFlat.find? name = otherFlat.find? name := by
  have perm : shared.entries.Perm sharedUpward.entries := (List.reverse_perm _).symm
  obtain ⟨fails, succeeds⟩ := flatten_of_perm perm .reversed
  exact ⟨perm, flatten_shared, fails, succeeds sharedFlat flatten_shared⟩

end ShaderInterface.StructTable
