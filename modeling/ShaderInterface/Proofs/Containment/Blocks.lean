import ShaderInterface.Proofs.Containment.Ways

set_option autoImplicit false

namespace ShaderInterface.StructTable

variable {structs flat : StructTable} {order : ChildOrder} {fields : List Field} {way : Way}
  {name : Text}

/-- The fields of a block stand for the leaves of the ways from them, each way once, in the order in
which they are inlined. -/
theorem Flattened.exists_ways (flattened : Flattened structs order flat)
    (grounded : ∀ name ∈ structs, Grounded structs name) (fields : List Field) :
    ∃ ways : List Way, (∀ way, way ∈ ways ↔ LeadsOn structs fields way) ∧
      ways.Pairwise (Way.Before order) ∧
      ∀ naming, Field.expandAll flat naming order fields =
        ways.map fun way => (way.shown naming).leaf := by
  -- a name that is no struct gets no ways, and none are asked for
  have each : ∀ name, ∃ ways, name ∈ structs →
      Enumerates structs order name ways ∧ flat.find? name = some (ways.map Way.leaf) := by
    intro name
    by_cases known : name ∈ structs
    · obtain ⟨ways, answer⟩ := flattened.exists_enumeration (grounded name known) known
      exact ⟨ways, fun _ => answer⟩
    · exact ⟨[], fun declared => absurd declared known⟩
  choose below answer using each
  refine ⟨branches structs order below 0 fields, fun way => ?_, ?_, fun naming => ?_⟩
  · exact mem_branches_iff_leadsOn (fun field _ known => (answer _ known).1.complete) way
  · exact pairwise_branches 0 fun field _ known => (answer _ known).1.sorted
  · rw [map_leaf_branches naming 0 fun _ => flattened.mem_iff]
    · exact fun field _ known => (answer _ known).2
    · exact fun field _ known way listed =>
        ((answer _ known).1.complete way |>.1 listed).ne_nil

theorem LeadsOn.ne_nil (leads : LeadsOn structs fields way) : way ≠ [] := by
  obtain ⟨_, _, _, rfl, _⟩ := leads
  exact List.cons_ne_nil _ _

/-- What holds of every declared field holds along every way. -/
theorem LeadsOn.forall_steps {P : Field → Prop} (leads : LeadsOn structs fields way)
    (here : ∀ field ∈ fields, P field)
    (below : ∀ name fields, structs.find? name = some fields → ∀ field ∈ fields, P field) :
    ∀ step ∈ way, P step.2 := by
  induction way generalizing fields with
  | nil => nofun
  | cons step rest ih =>
    obtain ⟨position, field, others, same, present, onward⟩ := leads
    obtain ⟨rfl, rfl⟩ := List.cons.inj same
    refine List.forall_mem_cons.2 ⟨here field (List.mem_of_getElem? present), ?_⟩
    split at onward
    · obtain ⟨inner, declared⟩ := Table.mem_iff_exists_find?.1 onward.declared
      exact ih ((leadsDown_iff_leadsOn declared).1 onward) (below _ inner declared)
    · rw [onward]
      nofun

/-- The name of each field of a list is its own. -/
def NamesDistinct (fields : List Field) : Prop := (fields.map Field.name).Nodup

instance (fields : List Field) : Decidable (NamesDistinct fields) :=
  inferInstanceAs (Decidable (List.Nodup _))

theorem NamesDistinct.position_eq (distinct : NamesDistinct fields) {i j : Nat}
    {first second : Field} (there : fields[i]? = some first) (here : fields[j]? = some second)
    (same : first.name = second.name) : i = j ∧ first = second := by
  have named : (fields.map Field.name)[i]? = (fields.map Field.name)[j]? := by
    rw [List.getElem?_map, List.getElem?_map, there, here, Option.map_some, Option.map_some, same]
  have within : i < (fields.map Field.name).length := by
    rw [List.length_map]
    exact (List.getElem?_eq_some_iff.1 there).1
  obtain rfl : i = j := (List.getElem?_inj within distinct).1 named
  exact ⟨rfl, Option.some.inj (there.symm.trans here)⟩

/-- The names on a way say which way it is. -/
theorem LeadsOn.eq_of_names {other : Way} (leads : LeadsOn structs fields way)
    (otherLeads : LeadsOn structs fields other) (distinct : NamesDistinct fields)
    (below : ∀ name fields, structs.find? name = some fields → NamesDistinct fields)
    (same : way.map (fun step => step.2.name) = other.map fun step => step.2.name) :
    way = other := by
  induction way generalizing fields other with
  | nil =>
    obtain ⟨_, _, _, impossible, _⟩ := leads
    cases impossible
  | cons step rest ih =>
    obtain ⟨position, field, others, here, present, onward⟩ := leads
    obtain ⟨rfl, rfl⟩ := List.cons.inj here
    obtain ⟨place, second, more, rfl, there, otherOnward⟩ := otherLeads
    -- one name, hence one place in the list and one field; below it the types are the same
    rw [List.map_cons, List.map_cons] at same
    obtain ⟨sameName, sameRest⟩ := List.cons.inj same
    obtain ⟨rfl, rfl⟩ := distinct.position_eq present there sameName
    split at onward
    · next known =>
      rw [if_pos known] at otherOnward
      obtain ⟨inner, declared⟩ := Table.mem_iff_exists_find?.1 known
      rw [leadsDown_iff_leadsOn declared] at onward otherOnward
      rw [ih onward otherOnward (below _ inner declared) sameRest]
    · next last =>
      rw [if_neg last] at otherOnward
      rw [onward, otherOnward]

end ShaderInterface.StructTable
