import ShaderInterface.Proofs.Containment.Blocks
import ShaderInterface.Proofs.Declaration.Simulation
import ShaderInterface.Proofs.Declaration.Steps
import ShaderInterface.Proofs.Interface.Resolution

set_option autoImplicit false

namespace ShaderInterface

open StructTable (Way LeadsOn)

theorem Field.IsStated.isSolid {field : Field} (stated : field.IsStated) : field.name.IsSolid := by
  obtain ⟨text, parsed⟩ := stated
  rw [Field.ofText?] at parsed
  simp only [Option.bind_eq_bind, Option.bind_eq_some_iff] at parsed
  obtain ⟨_, _, name, last, rest⟩ := parsed
  split at rest
  · cases rest
  · cases rest
    exact Text.isSolid_of_mem_words (List.mem_of_getLast? last)

namespace Declarations

variable {d : Declarations} {stage : Stage} {name : Text}

theorem stored?_struct {fields : List Field} (found : d.structs.find? name = some fields) :
    d.stored? .struct name = some (.struct name fields) := by
  rw [stored?, found, Option.map_some]

theorem stored?_uniform {block : Block} (found : d.uniforms.find? name = some block) :
    d.stored? .uniform name = some (.uniform block) := by
  rw [stored?, found, Option.map_some]

theorem stored?_pushConstant {block : PushConstant}
    (found : (d.pushConstants stage).find? name = some block) :
    d.stored? (.pushConstant stage) name = some (.pushConstant block) := by
  rw [stored?, found, Option.map_some]

end Declarations

namespace Interface

variable {settings : Settings} {sourceName name : Text} {lines : List Text} {stated i : Interface}
  {declared : Declarations} {order : ChildOrder} {naming : ChildNaming}
  {fields resolved : List Field}

theorem withInputs_ok (success : withInputs declared lines = .ok i) :
    i.toDeclarations = declared := by
  rw [withInputs] at success
  obtain ⟨_, -, onward⟩ := Fallible.bind_eq_ok_iff.1 success
  obtain ⟨_, -, onward⟩ := Fallible.bind_eq_ok_iff.1 onward
  obtain ⟨_, -, onward⟩ := Fallible.bind_eq_ok_iff.1 onward
  obtain ⟨_, -, same⟩ := Fallible.bind_eq_ok_iff.1 onward
  cases same
  rfl

theorem ofBlocks_named {blocks : List (List Text)}
    (success : (Declarations.ofBlocks blocks).result = .ok declared) :
    declared.Named ∧ declared.Stated := by
  rw [Declarations.ofBlocks_ok success]
  refine ⟨?_, (Reading.readAll_isProper .empty _).stated⟩
  rw [Reading.readAll_reading]
  exact (Reading.Sound.start.readLines _).named

/-- What lines declare stands under its own name, and its fields are stated. -/
theorem ofLines_ok (success : (ofLines sourceName lines).result = .ok i) :
    i.toDeclarations.Named ∧ i.toDeclarations.Stated := by
  rw [ofLines] at success
  split at success
  · cases success
  · obtain ⟨declared, scanned, signed⟩ := Fallible.bind_eq_ok_iff.1 success
    rw [withInputs_ok signed]
    exact ofBlocks_named scanned

/-- Fields stand for others: for the leaves of the ways from them, in the order in which these are
inlined. -/
def StandFor (structs : StructTable) (order : ChildOrder) (naming : ChildNaming)
    (fields resolved : List Field) : Prop :=
  ∃ ways : List Way, (∀ way, way ∈ ways ↔ LeadsOn structs fields way) ∧
    ways.Pairwise (Way.Before order) ∧ resolved = ways.map fun way => (way.shown naming).leaf

theorem resolve_standFor (success : stated.resolve settings = .ok i) :
    ∃ flat, i = stated.expand settings.order flat ∧ ∀ naming fields,
      StandFor stated.structs settings.order naming fields
        (Field.expandAll flat naming settings.order fields) := by
  obtain ⟨flat, flatten, -, rfl⟩ := resolve_ok success
  obtain ⟨flattened, grounded⟩ := StructTable.flatten_ok flatten
  refine ⟨flat, rfl, fun naming fields => ?_⟩
  obtain ⟨ways, complete, sorted, leaves⟩ := flattened.exists_ways grounded fields
  exact ⟨ways, complete, sorted, leaves naming⟩

theorem resolve_uniform {block : Block} (success : stated.resolve settings = .ok i)
    (found : i.uniforms.find? name = some block) :
    ∃ old, stated.uniforms.find? name = some old ∧ block.name = old.name ∧
      StandFor stated.structs settings.order .path old.fields block.fields := by
  obtain ⟨flat, rfl, stands⟩ := resolve_standFor success
  rw [expand, Table.find?_map] at found
  obtain ⟨old, before, rfl⟩ := Option.map_eq_some_iff.1 found
  exact ⟨old, before, rfl, stands .path old.fields⟩

theorem resolve_pushConstant {stage : Stage} {block : PushConstant}
    (success : stated.resolve settings = .ok i)
    (found : (i.pushConstants stage).find? name = some block) :
    ∃ old, (stated.pushConstants stage).find? name = some old ∧ block.name = old.name ∧
      StandFor stated.structs settings.order .leaf old.fields block.fields := by
  obtain ⟨flat, rfl, stands⟩ := resolve_standFor success
  cases stage <;>
  · rw [Declarations.pushConstants, expand, Table.find?_map] at found
    obtain ⟨old, before, rfl⟩ := Option.map_eq_some_iff.1 found
    exact ⟨old, before, rfl, stands .leaf old.fields⟩

theorem StandFor.isSolid {structs : StructTable}
    (stand : StandFor structs order naming fields resolved)
    (here : ∀ field ∈ fields, field.IsStated)
    (below : ∀ name fields, structs.find? name = some fields → ∀ field ∈ fields, field.IsStated) :
    ∀ field ∈ resolved, field.name.IsSolid := by
  obtain ⟨ways, complete, -, rfl⟩ := stand
  simp only [List.forall_mem_map]
  intro way member
  have leads := (complete way).1 member
  have steps : ∀ step ∈ way.shown naming, step.2.name.IsSolid := fun step shown =>
    (leads.forall_steps here below step (Way.mem_of_mem_shown shown)).isSolid
  exact .intercalate (by simpa using Way.shown_ne_nil leads.ne_nil) (List.forall_mem_map.2 steps)
    (by decide)

/-- What stands for a declaration is named as it is declared. -/
theorem StandFor.names {kind : DeclarationKind} {entry : TableEntry}
    (stand : StandFor stated.structs order naming entry.fields resolved)
    (named : stated.toDeclarations.Named) (written : stated.toDeclarations.Stated)
    (stored : stated.stored? kind name = some entry) :
    entry.name = name ∧ ∀ field ∈ resolved, field.name.IsSolid := by
  refine ⟨(named kind name entry stored).2, stand.isSolid (written kind name entry stored) ?_⟩
  exact fun _ _ declared => written _ _ _ (Declarations.stored?_struct declared)

/-- A resolved uniform stands under its own name, and its fields have solid names. -/
theorem resolve_uniform_names {block : Block} (success : stated.resolve settings = .ok i)
    (named : stated.toDeclarations.Named) (written : stated.toDeclarations.Stated)
    (found : i.uniforms.find? name = some block) :
    block.name = name ∧ ∀ field ∈ block.fields, field.name.IsSolid := by
  obtain ⟨old, before, same, stand⟩ := resolve_uniform success found
  rw [same]
  exact StandFor.names stand named written (Declarations.stored?_uniform before)

theorem resolve_pushConstant_names {stage : Stage} {block : PushConstant}
    (success : stated.resolve settings = .ok i)
    (named : stated.toDeclarations.Named) (written : stated.toDeclarations.Stated)
    (found : (i.pushConstants stage).find? name = some block) :
    block.name = name ∧ ∀ field ∈ block.fields, field.name.IsSolid := by
  obtain ⟨old, before, same, stand⟩ := resolve_pushConstant success found
  rw [same]
  exact StandFor.names stand named written (Declarations.stored?_pushConstant before)

end Interface
end ShaderInterface
