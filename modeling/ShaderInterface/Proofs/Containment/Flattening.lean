import ShaderInterface.Proofs.Containment.Walk

set_option autoImplicit false

namespace ShaderInterface.StructTable

variable {structs flat : StructTable} {order : ChildOrder} {name : Text} {fields : List Field}

/-- The same structs in the same order, each with what its fields stand for in this table. -/
structure Flattened (structs : StructTable) (order : ChildOrder) (flat : StructTable) : Prop where
  keys : flat.keys = structs.keys
  entry : ∀ {name fields}, structs.find? name = some fields →
    flat.find? name = some (Field.expandAll flat .path order fields)

theorem Flattened.mem_iff (flattened : Flattened structs order flat) :
    name ∈ flat ↔ name ∈ structs := by
  rw [Table.mem_iff, flattened.keys, Table.mem_iff]

theorem Flattened.find?_of_not_mem (flattened : Flattened structs order flat)
    (absent : name ∉ structs) : flat.find? name = none :=
  Table.find?_eq_none_iff.2 fun member => absent (flattened.mem_iff.1 member)

theorem flatten_eq_flattenEach :
    structs.flatten order = (flattenEach structs order [] structs.keys ∅).map fun finished =>
      structs.map fun name _ => (finished.find? name).getD [] := rfl

/-- A walk from every struct finishes them all. -/
theorem flattenEach_keys_ok {finished : StructTable}
    (success : flattenEach structs order [] structs.keys ∅ = .ok finished) :
    Finished structs order finished ∧ ∀ name ∈ structs, name ∈ finished := by
  have onward : ∀ name ∈ structs.keys, ∀ before after, Finished structs order before →
      flattenFrom structs order [] name before = .ok after →
      Finished structs order after ∧ name ∈ after ∧ ∀ other, other ∈ before → other ∈ after := by
    intro name known before after finishedBefore step
    obtain ⟨finishedAfter, reached, kept⟩ := flattenFrom_ok finishedBefore step
    exact ⟨finishedAfter, reached known, kept⟩
  obtain ⟨finishedLast, reached, -⟩ := Fallible.foldlM_ok onward Finished.empty success
  exact ⟨finishedLast, reached⟩

/-- Restoring the table order changes no look-up. -/
theorem find?_restored {finished : StructTable} (done : Finished structs order finished)
    (all : ∀ name ∈ structs, name ∈ finished) :
    (structs.map fun name _ => (finished.find? name).getD []).find? name = finished.find? name := by
  rw [Table.find?_map]
  cases declared : structs.find? name with
  | none =>
    have absent : name ∉ finished := fun member =>
      Table.find?_eq_none_iff.1 declared (done.declared member)
    rw [Table.find?_eq_none_iff.2 absent, Option.map_none]
  | some fields =>
    obtain ⟨children, found⟩ :=
      Table.mem_iff_exists_find?.1 (all name (Table.mem_of_find? declared))
    rw [found, Option.map_some, Option.getD_some]

theorem flatten_ok (success : structs.flatten order = .ok flat) :
    Flattened structs order flat ∧ ∀ name ∈ structs, Grounded structs name := by
  rw [flatten_eq_flattenEach] at success
  obtain ⟨finished, walked, rfl⟩ := Fallible.map_eq_ok_iff.1 success
  obtain ⟨done, all⟩ := flattenEach_keys_ok walked
  refine ⟨⟨Table.keys_map _ structs, ?_⟩, fun name known => done.grounded name (all name known)⟩
  intro name fields declared
  obtain ⟨itsFields, itsDeclared, -, value⟩ :=
    done.entry name (all name (Table.mem_of_find? declared))
  obtain rfl := Option.some.inj (declared.symm.trans itsDeclared)
  rw [find?_restored done all, value]
  congr 1
  exact expandAll_congr fun field _ => (find?_restored done all).symm

theorem flatten_error {reason : ShaderError} (failed : structs.flatten order = .error reason) :
    ∃ cycle, reason = .recursiveStruct cycle ∧ IsCycle structs cycle := by
  rw [flatten_eq_flattenEach, Fallible.map_eq_error_iff] at failed
  obtain ⟨name, -, before, step⟩ := Fallible.foldlM_error failed
  exact flattenFrom_error List.nodup_nil (List.isChain_singleton name) step

theorem not_recursive_of_flatten_ok (success : structs.flatten order = .ok flat) :
    ¬Recursive structs := by
  rintro ⟨name, loop⟩
  have known : name ∈ structs := by
    obtain ⟨_, -, edge⟩ := Relation.TransGen.tail'_iff.1 loop
    exact edge.1
  exact ((flatten_ok success).2 name known).not_transGen loop

theorem flatten_fails_iff :
    (∃ reason, structs.flatten order = .error reason) ↔ Recursive structs := by
  constructor
  · rintro ⟨reason, failed⟩
    obtain ⟨cycle, -, isCycle⟩ := flatten_error failed
    exact isCycle.recursive
  · intro recursive
    cases result : structs.flatten order with
    | ok flat => exact absurd recursive (not_recursive_of_flatten_ok result)
    | error reason => exact ⟨reason, rfl⟩

/-- A table without recursive structs has a flat one. -/
theorem exists_flatten (acyclic : ¬Recursive structs) (order : ChildOrder) :
    ∃ flat, structs.flatten order = .ok flat := by
  cases result : structs.flatten order with
  | ok flat => exact ⟨flat, rfl⟩
  | error reason => exact absurd (flatten_fails_iff.1 ⟨reason, result⟩) acyclic

/-- Inlining shows the types of the fields that are no structs, and those that flat structs show. -/
theorem forall_types_expandAll {naming : ChildNaming} {P : Text → Prop}
    (here : ∀ field ∈ fields, field.typeName ∉ flat → P field.typeName)
    (below : ∀ field ∈ fields, ∀ children, flat.find? field.typeName = some children →
      ∀ child ∈ children, P child.typeName) :
    ∀ leaf ∈ Field.expandAll flat naming order fields, P leaf.typeName := by
  intro leaf member
  obtain ⟨field, inFields, inExpansion⟩ := List.mem_flatMap.1 member
  rw [Field.expand] at inExpansion
  split at inExpansion
  · next undeclared =>
    obtain rfl := List.mem_singleton.1 inExpansion
    exact here leaf inFields (Table.find?_eq_none_iff.1 undeclared)
  · next children found =>
    obtain ⟨child, inArranged, rfl⟩ := List.mem_map.1 inExpansion
    have inChildren : child ∈ children := (order.arrange_perm children).mem_iff.1 inArranged
    have holds := below field inFields children found child inChildren
    cases naming <;> exact holds

/-- Flat structs show only types that declared fields have and that are no structs. -/
theorem Flattened.forall_types {P : Text → Prop} (flattened : Flattened structs order flat)
    (each : ∀ name fields, structs.find? name = some fields →
      ∀ field ∈ fields, field.typeName ∉ structs → P field.typeName)
    (grounded : Grounded structs name) :
    ∀ children, flat.find? name = some children → ∀ child ∈ children, P child.typeName := by
  apply grounded.induct
  · intro name absent children found
    cases (flattened.find?_of_not_mem absent).symm.trans found
  · intro name fields declared ih children found
    obtain rfl := Option.some.inj ((flattened.entry declared).symm.trans found)
    apply forall_types_expandAll
    · intro field member leaf
      exact each name fields declared field member fun inner => leaf (flattened.mem_iff.2 inner)
    · exact ih

end ShaderInterface.StructTable
