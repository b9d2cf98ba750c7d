import ShaderInterface.Interface
import ShaderInterface.Proofs.Containment.Flattening

set_option autoImplicit false

namespace ShaderInterface

/-- A field whose type is primitive or a struct. -/
def Field.IsKnown (primitives : PrimitiveTable) (structs : StructTable) (field : Field) : Prop :=
  field.typeName ∈ primitives ∨ field.typeName ∈ structs

/-- A field whose type is primitive and no struct. -/
def Field.IsPrimitive (primitives : PrimitiveTable) (structs : StructTable) (field : Field) :
    Prop :=
  field.typeName ∈ primitives ∧ field.typeName ∉ structs

/-- Every field of every struct, block and entry point is of a sort. -/
structure Interface.EveryField (sort : Field → Prop) (i : Interface) : Prop where
  structs : ∀ name fields, i.structs.find? name = some fields → ∀ field ∈ fields, sort field
  uniforms : ∀ block ∈ i.uniforms.values, ∀ field ∈ block.fields, sort field
  vertexPushConstants : ∀ block ∈ i.vertexPushConstants.values, ∀ field ∈ block.fields, sort field
  fragmentPushConstants :
    ∀ block ∈ i.fragmentPushConstants.values, ∀ field ∈ block.fields, sort field
  vertexInputs : ∀ field ∈ i.vertexInputs, sort field
  fragmentInputs : ∀ field ∈ i.fragmentInputs, sort field

theorem Interface.EveryField.imp {sort other : Field → Prop} {i : Interface}
    (every : i.EveryField sort) (weaker : ∀ field, sort field → other field) :
    i.EveryField other :=
  ⟨fun name fields found field member =>
      weaker field (every.structs name fields found field member),
    fun block stored field member => weaker field (every.uniforms block stored field member),
    fun block stored field member =>
      weaker field (every.vertexPushConstants block stored field member),
    fun block stored field member =>
      weaker field (every.fragmentPushConstants block stored field member),
    fun field member => weaker field (every.vertexInputs field member),
    fun field member => weaker field (every.fragmentInputs field member)⟩

variable {primitives : PrimitiveTable} {structs flat : StructTable} {order : ChildOrder}

theorem checkResolved_eq_ok_iff {interface : Text} {fields : List Field} :
    checkResolved primitives structs interface fields = .ok () ↔
      ∀ field ∈ fields, field.IsKnown primitives structs := by
  rw [checkResolved]
  split
  · next none =>
    refine iff_of_true rfl fun field member => ?_
    have known := List.find?_eq_none.1 none field member
    simp only [Bool.and_eq_true, Bool.not_eq_true', decide_eq_false_iff_not] at known
    by_cases primitive : field.typeName ∈ primitives
    · exact .inl primitive
    · exact .inr (Decidable.byContradiction fun undeclared => known ⟨primitive, undeclared⟩)
  · next field found =>
    refine iff_of_false (by simp) fun all => ?_
    have unknown := List.find?_some found
    simp only [Bool.and_eq_true, Bool.not_eq_true', decide_eq_false_iff_not] at unknown
    exact (all field (List.mem_of_find?_eq_some found)).elim unknown.1 unknown.2

namespace Interface

/-- The parts of an interface are its structs, its blocks and its entry points. -/
theorem forall_parts_iff {i : Interface} {sort : Field → Prop} :
    (∀ part ∈ i.parts, ∀ field ∈ part.2, sort field) ↔ i.EveryField sort := by
  constructor
  · intro all
    refine ⟨?_, ?_, ?_, ?_, ?_, ?_⟩
    · intro name fields found
      refine all (part .struct name fields) ?_
      simp only [parts, List.mem_append, List.mem_map]
      exact .inl (.inl (.inl (.inl ⟨(name, fields), Table.find?_eq_some_iff.1 found, rfl⟩)))
    · intro block member
      refine all (part .uniform block.name block.fields) ?_
      simp only [parts, List.mem_append, List.mem_map]
      exact .inl (.inr ⟨block, member, rfl⟩)
    · intro block member
      refine all (part (.pushConstant .vertex) block.name block.fields) ?_
      simp only [parts, List.mem_append, List.mem_map]
      exact .inl (.inl (.inl (.inr ⟨block, member, rfl⟩)))
    · intro block member
      refine all (part (.pushConstant .fragment) block.name block.fields) ?_
      simp only [parts, List.mem_append, List.mem_map]
      exact .inl (.inl (.inr ⟨block, member, rfl⟩))
    · exact all (Stage.vertex.entry, i.vertexInputs) (by simp [parts])
    · exact all (Stage.fragment.entry, i.fragmentInputs) (by simp [parts])
  · intro every item member
    simp only [parts, List.mem_append, List.mem_map, List.mem_cons, List.not_mem_nil,
      or_false] at member
    rcases member with
      (((⟨entry, stored, rfl⟩ | ⟨block, stored, rfl⟩) | ⟨block, stored, rfl⟩) |
        ⟨block, stored, rfl⟩) | rfl | rfl
    · exact every.structs entry.1 entry.2 (Table.find?_eq_some_iff.2 stored)
    · exact every.vertexPushConstants block stored
    · exact every.fragmentPushConstants block stored
    · exact every.uniforms block stored
    · exact every.vertexInputs
    · exact every.fragmentInputs

/-- The check passes exactly the interfaces whose types are all known. -/
theorem check_eq_ok_iff {i : Interface} :
    i.check primitives = .ok () ↔ i.EveryField (Field.IsKnown primitives i.structs) := by
  rw [check, Fallible.forM_eq_ok_iff, ← forall_parts_iff]
  simp only [checkResolved_eq_ok_iff]

end Interface

namespace Field

/-- What a known field stands for is primitive, when the fields of the flat structs are. -/
theorem isPrimitive_of_mem_expandAll {naming : ChildNaming} {fields : List Field}
    (mem_iff : ∀ name, name ∈ flat ↔ name ∈ structs)
    (children : ∀ field ∈ fields, ∀ inner, flat.find? field.typeName = some inner →
      ∀ child ∈ inner, child.IsPrimitive primitives structs)
    (known : ∀ field ∈ fields, field.IsKnown primitives structs) :
    ∀ leaf ∈ expandAll flat naming order fields, leaf.IsPrimitive primitives structs := by
  refine StructTable.forall_types_expandAll (P := fun typeName => typeName ∈ primitives ∧
    typeName ∉ structs) (fun field member absent => ?_) children
  have undeclared : field.typeName ∉ structs := fun inner => absent ((mem_iff _).2 inner)
  exact ⟨(known field member).resolve_right undeclared, undeclared⟩

end Field

/-- The fields of flat structs are primitive when the fields of the structs are known. -/
theorem StructTable.Flattened.isPrimitive (flattened : StructTable.Flattened structs order flat)
    (known : ∀ name fields, structs.find? name = some fields →
      ∀ field ∈ fields, field.IsKnown primitives structs)
    {name : Text} (grounded : StructTable.Grounded structs name) :
    ∀ fields, flat.find? name = some fields →
      ∀ field ∈ fields, field.IsPrimitive primitives structs := by
  refine flattened.forall_types (P := fun typeName => typeName ∈ primitives ∧ typeName ∉ structs)
    (fun name fields declared field member undeclared => ?_) grounded
  exact ⟨(known name fields declared field member).resolve_right undeclared, undeclared⟩

namespace Interface

/-- Replacing struct typed fields everywhere leaves primitive fields. -/
theorem EveryField.expand {i : Interface}
    (every : i.EveryField (Field.IsKnown primitives i.structs))
    (mem_iff : ∀ name, name ∈ flat ↔ name ∈ i.structs)
    (leaves : ∀ name fields, flat.find? name = some fields →
      ∀ field ∈ fields, field.IsPrimitive primitives i.structs) :
    (i.expand order flat).EveryField (Field.IsPrimitive primitives i.structs) := by
  have stands {naming : ChildNaming} {fields : List Field}
      (known : ∀ field ∈ fields, field.IsKnown primitives i.structs) :
      ∀ leaf ∈ Field.expandAll flat naming order fields, leaf.IsPrimitive primitives i.structs :=
    Field.isPrimitive_of_mem_expandAll mem_iff (fun field _ => leaves field.typeName) known
  refine ⟨leaves, ?_, ?_, ?_, stands every.vertexInputs, stands every.fragmentInputs⟩
  · intro block member
    obtain ⟨name, old, stored, rfl⟩ := Table.mem_values_map.1 member
    exact stands (every.uniforms old (Table.mem_values_iff.2 ⟨name, stored⟩))
  · intro block member
    obtain ⟨name, old, stored, rfl⟩ := Table.mem_values_map.1 member
    exact stands (every.vertexPushConstants old (Table.mem_values_iff.2 ⟨name, stored⟩))
  · intro block member
    obtain ⟨name, old, stored, rfl⟩ := Table.mem_values_map.1 member
    exact stands (every.fragmentPushConstants old (Table.mem_values_iff.2 ⟨name, stored⟩))

theorem resolve_ok {settings : Settings} {i resolved : Interface}
    (success : i.resolve settings = .ok resolved) :
    ∃ flat, i.structs.flatten settings.order = .ok flat ∧
      i.EveryField (Field.IsKnown settings.primitives i.structs) ∧
      resolved = i.expand settings.order flat := by
  rw [resolve] at success
  obtain ⟨_, checked, onward⟩ := Fallible.bind_eq_ok_iff.1 success
  obtain ⟨flat, flattened, same⟩ := Fallible.bind_eq_ok_iff.1 onward
  exact ⟨flat, flattened, check_eq_ok_iff.1 checked, (Except.ok.inj same).symm⟩

theorem resolve_isPrimitive {settings : Settings} {i resolved : Interface}
    (success : i.resolve settings = .ok resolved) :
    resolved.EveryField (Field.IsPrimitive settings.primitives i.structs) := by
  obtain ⟨flat, flatten, known, rfl⟩ := resolve_ok success
  obtain ⟨flattened, grounded⟩ := StructTable.flatten_ok flatten
  refine known.expand (fun _ => flattened.mem_iff) ?_
  intro name fields found
  have declared := flattened.mem_iff.1 (Table.mem_of_find? found)
  exact flattened.isPrimitive known.structs (grounded name declared) fields found

theorem ofSource_eq_ok_iff {settings : Settings} {sourceName source : Text} {i : Interface} :
    (ofSource settings sourceName source).result = .ok i ↔
      ∃ stated, (ofLines sourceName (SourceLines.ofText source)).result = .ok stated ∧
        stated.resolve settings = .ok i := by
  rw [← Fallible.bind_eq_ok_iff]
  rfl

/-- In a resolved interface the type of every field is primitive, and no struct. -/
theorem ofSource_isPrimitive {settings : Settings} {sourceName source : Text} {i : Interface}
    (success : (ofSource settings sourceName source).result = .ok i) :
    i.EveryField fun field =>
      field.typeName ∈ settings.primitives ∧ field.typeName ∉ i.structs := by
  rw [ofSource] at success
  cases stated : (ofLines sourceName (SourceLines.ofText source)).result with
  | error reason => simp [stated, Except.bind] at success
  | ok before =>
    have resolved : before.resolve settings = .ok i := by simpa [stated, Except.bind] using success
    obtain ⟨flat, flatten, known, rfl⟩ := resolve_ok resolved
    obtain ⟨flattened, grounded⟩ := StructTable.flatten_ok flatten
    have leaves : ∀ name fields, flat.find? name = some fields →
        ∀ field ∈ fields, field.IsPrimitive settings.primitives before.structs := by
      intro name fields found
      have declared := flattened.mem_iff.1 (Table.mem_of_find? found)
      exact flattened.isPrimitive known.structs (grounded name declared) fields found
    have every : (before.expand settings.order flat).EveryField
        (Field.IsPrimitive settings.primitives before.structs) :=
      known.expand (fun _ => flattened.mem_iff) leaves
    refine every.imp fun field primitive => ⟨primitive.1, fun member => ?_⟩
    exact primitive.2 (flattened.mem_iff.1 member)

/-- Two primitive types, one of which has the name of a struct of `shadowingSource`. -/
def shadowing : Settings :=
  ⟨Table.ofList [("f32", ⟨"f32", 4, some "float"⟩), ("vec3", ⟨"vec3", 12, some "vec3"⟩)], .reversed⟩

def shadowingSource : Text :=
  "#Data
struct f32 \x7b x: vec3, y: vec3 \x7d
struct E \x7b\x7d
@group(0) @binding(1) var<uniform> lamp \x7b e: E, f: f32 \x7d
#end
fn vs_main(p: f32) -> V \x7b
fn fs_main(s: vec3) \x7b"

def shadowed : Interface where
  structs := ⟨[("f32", [⟨"x", "vec3"⟩, ⟨"y", "vec3"⟩]), ("E", [])], by decide⟩
  uniforms := ⟨[("lamp", ⟨"lamp", 0, 1, [⟨"f.y", "vec3"⟩, ⟨"f.x", "vec3"⟩]⟩)], by decide⟩
  vertexPushConstants := ∅
  fragmentPushConstants := ∅
  vertexInputs := [⟨"p.y", "vec3"⟩, ⟨"p.x", "vec3"⟩]
  fragmentInputs := [⟨"s", "vec3"⟩]

theorem ofSource_shadowing_isPrimitive :
    (ofSource shadowing "lamp" shadowingSource).result = .ok shadowed ∧
    shadowed.EveryField fun field =>
      field.typeName ∈ shadowing.primitives ∧ field.typeName ∉ shadowed.structs := by
  have success : (ofSource shadowing "lamp" shadowingSource).result = .ok shadowed :=
    Fallible.eq_ok_of_toOption (by decide +kernel)
  exact ⟨success, ofSource_isPrimitive success⟩

end Interface
end ShaderInterface
