import ShaderInterface.Proofs.Containment.Blocks
import ShaderInterface.Proofs.Containment.Orders

set_option autoImplicit false

namespace ShaderInterface.StructTable

variable {structs flat : StructTable} {order : ChildOrder} {fields : List Field} {way other : Way}

/-- Fields with distinct names, none of which has a dot. -/
structure Undotted (fields : List Field) : Prop where
  distinct : NamesDistinct fields
  plain : ∀ field ∈ fields, '.' ∉ field.name

instance (fields : List Field) : Decidable (Undotted fields) :=
  decidable_of_iff (NamesDistinct fields ∧ ∀ field ∈ fields, '.' ∉ field.name)
    ⟨fun both => ⟨both.1, both.2⟩, fun undotted => ⟨undotted.distinct, undotted.plain⟩⟩

/-- The name at the end of a way is cut into the names on the way. -/
theorem Way.splitOn_leaf (present : way ≠ []) (plain : ∀ step ∈ way, '.' ∉ step.2.name) :
    way.leaf.name.splitOn '.' = way.map fun step => step.2.name :=
  List.splitOn_intercalate '.' (List.forall_mem_map.2 plain) (by simpa using present)

/-- Ways to one name are one way. -/
theorem LeadsOn.eq_of_leaf (leads : LeadsOn structs fields way)
    (otherLeads : LeadsOn structs fields other) (undotted : Undotted fields)
    (below : ∀ name fields, structs.find? name = some fields → Undotted fields)
    (same : way.leaf.name = other.leaf.name) : way = other := by
  have plain : ∀ way, LeadsOn structs fields way → ∀ step ∈ way, '.' ∉ step.2.name := by
    intro way leads
    exact leads.forall_steps undotted.plain fun name fields declared =>
      (below name fields declared).plain
  have names : way.map (fun step => step.2.name) = other.map fun step => step.2.name := by
    rw [← Way.splitOn_leaf leads.ne_nil (plain way leads), same,
      Way.splitOn_leaf otherLeads.ne_nil (plain other otherLeads)]
  exact leads.eq_of_names otherLeads undotted.distinct
    (fun name fields declared => (below name fields declared).distinct) names

theorem Flattened.namesDistinct_expandAll (flattened : Flattened structs order flat)
    (grounded : ∀ name ∈ structs, Grounded structs name)
    (below : ∀ name fields, structs.find? name = some fields → Undotted fields)
    (undotted : Undotted fields) (inlined : ChildOrder) :
    NamesDistinct (Field.expandAll flat .path inlined fields) := by
  -- the order in which fields are inlined moves names and makes none
  have rearranged : (Field.expandAll flat .path order fields).Perm
      (Field.expandAll flat .path inlined fields) :=
    Field.expandAll_perm (.of_refl .refl flat) .path fields
  rw [NamesDistinct, ← (rearranged.map Field.name).nodup_iff]
  obtain ⟨ways, complete, sorted, leaves⟩ := flattened.exists_ways grounded fields
  have distinct : ways.Nodup := sorted.imp Way.Before.ne
  rw [leaves .path, List.map_map]
  refine distinct.map_on fun way member other otherMember same => ?_
  exact ((complete way).1 member).eq_of_leaf ((complete other).1 otherMember) undotted below same

/-- Where no struct repeats a name and no name has a dot, flattening repeats no name, and neither
does inlining the flat structs under paths into fields of that sort. -/
theorem flatten_namesDistinct {structs : StructTable} (acyclic : ¬Recursive structs)
    (undotted : ∀ name fields, structs.find? name = some fields → Undotted fields)
    (order : ChildOrder) :
    ∃ flat, structs.flatten order = .ok flat ∧
      (∀ name fields, flat.find? name = some fields → NamesDistinct fields) ∧
      ∀ fields, Undotted fields → ∀ inlined : ChildOrder,
        NamesDistinct (Field.expandAll flat .path inlined fields) := by
  obtain ⟨flat, success⟩ := exists_flatten acyclic order
  obtain ⟨flattened, grounded⟩ := flatten_ok success
  have inlining : ∀ fields, Undotted fields → ∀ inlined : ChildOrder,
      NamesDistinct (Field.expandAll flat .path inlined fields) := fun _ =>
    flattened.namesDistinct_expandAll grounded undotted
  refine ⟨flat, success, fun name fields found => ?_, inlining⟩
  obtain ⟨declared, known⟩ :=
    Table.mem_iff_exists_find?.1 (flattened.mem_iff.1 (Table.mem_of_find? found))
  obtain rfl := Option.some.inj ((flattened.entry known).symm.trans found)
  exact inlining declared (undotted name declared known) order

theorem flatten_namesDistinct_shared :
    (¬Recursive shared ∧ ∀ name fields, shared.find? name = some fields → Undotted fields) ∧
      shared.flatten .reversed = .ok sharedFlat ∧
      (∀ name fields, sharedFlat.find? name = some fields → NamesDistinct fields) ∧
      ∀ fields, Undotted fields → ∀ inlined : ChildOrder,
        NamesDistinct (Field.expandAll sharedFlat .path inlined fields) := by
  have acyclic : ¬Recursive shared := not_recursive_of_flatten_ok flatten_shared
  have undotted : ∀ name fields, shared.find? name = some fields → Undotted fields := by
    have each : ∀ fields ∈ shared.values, Undotted fields := by decide
    exact fun name fields declared => each fields (Table.mem_values_iff.2 ⟨name, declared⟩)
  obtain ⟨flat, success, distinct, inlining⟩ := flatten_namesDistinct acyclic undotted .reversed
  obtain rfl : sharedFlat = flat := Except.ok.inj (flatten_shared.symm.trans success)
  exact ⟨⟨acyclic, undotted⟩, flatten_shared, distinct, inlining⟩

-- a name with a dot can be that of a way
example : ¬NamesDistinct (Field.expandAll ⟨[("Lamp", [⟨"power", "f32"⟩])], by decide⟩ .path
    .reversed [⟨"key", "Lamp"⟩, ⟨"key.power", "f32"⟩]) := by decide

end ShaderInterface.StructTable
