import ShaderInterface.Interface
import ShaderInterface.Layout
import ShaderInterface.Proofs.Containment.Orders

set_option autoImplicit false

namespace ShaderInterface

open Fallible (Agree)

variable {primitives : PrimitiveTable}

/-- The same fields in some order, as many bytes together. -/
structure Field.Rearranged (primitives : PrimitiveTable) (fields others : List Field) : Prop where
  perm : fields.Perm others
  size : fieldsSize primitives fields = fieldsSize primitives others

/-- Blocks that differ only in the order of their fields. -/
structure Block.Rearranged (primitives : PrimitiveTable) (block other : Block) : Prop where
  name : block.name = other.name
  group : block.group = other.group
  binding : block.binding = other.binding
  isResource : block.isResource = other.isResource
  fields : Field.Rearranged primitives block.fields other.fields

/-- Push constants of one stage that differ only in the order of their fields. -/
structure PushConstant.Rearranged (primitives : PrimitiveTable) (block other : PushConstant) :
    Prop where
  common : Block.Rearranged primitives block.toBlock other.toBlock
  stage : block.stage = other.stage

/-- Interfaces with the same names in the same table order that differ only in the order of fields,
with the same push constant ranges. -/
structure Interface.Rearranged (primitives : PrimitiveTable) (i j : Interface) : Prop where
  structs : Table.Related (Field.Rearranged primitives) i.structs j.structs
  uniforms : Table.Related (Block.Rearranged primitives) i.uniforms j.uniforms
  vertexPushConstants : Table.Related (PushConstant.Rearranged primitives)
    i.vertexPushConstants j.vertexPushConstants
  fragmentPushConstants : Table.Related (PushConstant.Rearranged primitives)
    i.fragmentPushConstants j.fragmentPushConstants
  vertexInputs : Field.Rearranged primitives i.vertexInputs j.vertexInputs
  fragmentInputs : Field.Rearranged primitives i.fragmentInputs j.fragmentInputs
  pushRanges : i.pushRanges primitives = j.pushRanges primitives

theorem fieldsSize_perm {fields others : List Field} (perm : fields.Perm others) :
    fieldsSize primitives fields = fieldsSize primitives others := by
  induction perm with
  | nil => rfl
  | cons field _ ih => rw [fieldsSize, fieldsSize, ih]
  | swap first second rest =>
    simp only [fieldsSize]
    omega
  | trans _ _ ih ih' => exact ih.trans ih'

theorem Field.Rearranged.of_perm {fields others : List Field} (perm : fields.Perm others) :
    Field.Rearranged primitives fields others := ⟨perm, fieldsSize_perm perm⟩

theorem Block.Rearranged.of_perm (block : Block) {fields others : List Field}
    (perm : fields.Perm others) :
    Block.Rearranged primitives { block with fields } { block with fields := others } :=
  ⟨rfl, rfl, rfl, perm.any_eq, .of_perm perm⟩

/-- Blocks that are packed one behind the other have the same ranges when each has its size. -/
theorem PushRange.pack_congr {blocks others : List PushConstant}
    (related : List.Forall₂ (PushConstant.Rearranged primitives) blocks others) (offset : Int) :
    pack primitives offset blocks = pack primitives offset others := by
  induction related generalizing offset with
  | nil => rfl
  | cons first _ ih =>
    simp only [pack]
    rw [first.common.name, first.stage, first.common.fields.size, ih]

namespace Interface

variable {order other : ChildOrder} {flat turned : StructTable}

theorem expand_rearranged (tables : Table.Related List.Perm flat turned) (i : Interface) :
    Rearranged primitives (i.expand order flat) (i.expand other turned) := by
  have paths (fields : List Field) : (Field.expandAll flat .path order fields).Perm
      (Field.expandAll turned .path other fields) := Field.expandAll_perm tables .path fields
  have leaves (fields : List Field) : (Field.expandAll flat .leaf order fields).Perm
      (Field.expandAll turned .leaf other fields) := Field.expandAll_perm tables .leaf fields
  have push (table : Table Text PushConstant) :
      Table.Related (PushConstant.Rearranged primitives)
        (table.map fun _ block =>
          { block with fields := Field.expandAll flat .leaf order block.fields })
        (table.map fun _ block =>
          { block with fields := Field.expandAll turned .leaf other block.fields }) := by
    refine (Table.Related.of_refl (R := Eq) (fun _ => rfl) table).map ?_
    rintro name block _ rfl
    exact ⟨.of_perm block.toBlock (leaves block.fields), rfl⟩
  have vertex := push i.vertexPushConstants
  have fragment := push i.fragmentPushConstants
  refine ⟨?_, ?_, vertex, fragment, .of_perm (paths _), .of_perm (paths _), ?_⟩
  · exact tables.imp fun _ _ both => ⟨both.1, .of_perm both.2⟩
  · refine (Table.Related.of_refl (R := Eq) (fun _ => rfl) i.uniforms).map ?_
    rintro name block _ rfl
    exact .of_perm block (paths block.fields)
  · exact PushRange.pack_congr (List.rel_append vertex.values fragment.values) 0

theorem resolve_agree (primitives : PrimitiveTable) (order other : ChildOrder) (i : Interface) :
    Agree (Rearranged primitives) (i.resolve ⟨primitives, order⟩)
      (i.resolve ⟨primitives, other⟩) := by
  rw [resolve, resolve]
  refine Agree.bind (R := Eq) ?_ ?_
  · cases i.check primitives with
    | error reason => exact .failed reason
    | ok checked => exact .succeeded rfl
  · rintro checked _ rfl
    refine (StructTable.flatten_agree i.structs order other).bind ?_
    intro flat turned tables
    exact .succeeded (expand_rearranged tables i)

/-- The order of inlined fields is the only thing that the choice of it changes: the warnings are
the same, and both readings fail for the same reason or both give interfaces that differ only in the
order of fields. -/
theorem ofSource_rearranged (primitives : PrimitiveTable) (sourceName source : Text) :
    (ofSource ⟨primitives, .reversed⟩ sourceName source).notices =
      (ofSource ⟨primitives, .declared⟩ sourceName source).notices ∧
    Agree (Rearranged primitives) (ofSource ⟨primitives, .reversed⟩ sourceName source).result
      (ofSource ⟨primitives, .declared⟩ sourceName source).result := by
  refine ⟨rfl, ?_⟩
  simp only [ofSource]
  cases (ofLines sourceName (SourceLines.ofText source)).result with
  | error reason => exact .failed reason
  | ok stated => exact resolve_agree primitives .reversed .declared stated

end Interface
end ShaderInterface
