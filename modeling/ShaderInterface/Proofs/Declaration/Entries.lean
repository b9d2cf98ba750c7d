import ShaderInterface.Declaration.Table
import ShaderInterface.Proofs.Table.Laws

set_option autoImplicit false

namespace ShaderInterface

/-- A declaration on its own. -/
inductive TableEntry where
  | struct (name : Text) (fields : List Field)
  | uniform (block : Block)
  | pushConstant (constant : PushConstant)
  deriving DecidableEq

namespace TableEntry

def kind : TableEntry → DeclarationKind
  | struct _ _ => .struct
  | uniform _ => .uniform
  | pushConstant constant => .pushConstant constant.stage

def name : TableEntry → Text
  | struct name _ => name
  | uniform block => block.name
  | pushConstant constant => constant.name

def addFields (more : List Field) : TableEntry → TableEntry
  | struct name fields => struct name (fields ++ more)
  | uniform block => uniform { block with fields := block.fields ++ more }
  | pushConstant constant => pushConstant { constant with fields := constant.fields ++ more }

@[simp] theorem kind_addFields (more : List Field) (entry : TableEntry) :
    (entry.addFields more).kind = entry.kind := by
  cases entry <;> rfl

@[simp] theorem name_addFields (more : List Field) (entry : TableEntry) :
    (entry.addFields more).name = entry.name := by
  cases entry <;> rfl

@[simp] theorem addFields_nil (entry : TableEntry) : entry.addFields [] = entry := by
  cases entry <;> simp [addFields]

theorem addFields_addFields (first second : List Field) (entry : TableEntry) :
    (entry.addFields first).addFields second = entry.addFields (first ++ second) := by
  cases entry <;> simp [addFields]

def inStructs : TableEntry → List (Text × List Field)
  | struct name fields => [(name, fields)]
  | _ => []

def inUniforms : TableEntry → List (Text × Block)
  | uniform block => [(block.name, block)]
  | _ => []

def inPushConstants (stage : Stage) : TableEntry → List (Text × PushConstant)
  | pushConstant constant => if constant.stage = stage then [(constant.name, constant)] else []
  | _ => []

/-- No two entries for the same table have the same name. -/
def Distinct (entries : List TableEntry) : Prop :=
  entries.Pairwise fun first second => ¬(second.kind = first.kind ∧ second.name = first.name)

instance (entries : List TableEntry) : Decidable (Distinct entries) :=
  inferInstanceAs (Decidable (entries.Pairwise _))

end TableEntry

namespace Declarations

variable {d : Declarations} {entry : TableEntry} {kind : DeclarationKind} {name : Text}

/-- The declarations with one more, or with another one in its place. -/
def put (d : Declarations) : TableEntry → Declarations
  | .struct name fields => d.addStruct name fields
  | .uniform block => d.addUniform block
  | .pushConstant constant => d.addPushConstant constant

/-- A field added under the name that was put last goes to what was put there. -/
theorem addField_put (d : Declarations) (entry : TableEntry) (field : Field) :
    (d.put entry).addField entry.kind entry.name field = d.put (entry.addFields [field]) := by
  cases entry with
  | struct name fields =>
    exact congrArg (fun table => { d with structs := table }) (Table.modify_insert_self _)
  | uniform block =>
    exact congrArg (fun table => { d with uniforms := table }) (Table.modify_insert_self _)
  | pushConstant constant =>
    obtain ⟨block, stage⟩ := constant
    cases stage with
    | vertex =>
      exact congrArg (fun table => { d with vertexPushConstants := table })
        (Table.modify_insert_self _)
    | fragment =>
      exact congrArg (fun table => { d with fragmentPushConstants := table })
        (Table.modify_insert_self _)

theorem declares_iff : d.declares kind name = true ↔
    match kind with
    | .struct => name ∈ d.structs
    | .uniform => name ∈ d.uniforms
    | .pushConstant stage => name ∈ d.pushConstants stage := by
  cases kind <;> exact decide_eq_true_iff

theorem declares_put :
    (d.put entry).declares kind name = true ↔
      (kind = entry.kind ∧ name = entry.name) ∨ d.declares kind name = true := by
  rw [declares_iff, declares_iff]
  cases entry with
  | struct other fields =>
    cases kind <;>
      simp [put, addStruct, TableEntry.kind, TableEntry.name, Table.mem_insert, pushConstants]
  | uniform block =>
    cases kind <;>
      simp [put, addUniform, TableEntry.kind, TableEntry.name, Table.mem_insert, pushConstants]
  | pushConstant constant =>
    obtain ⟨block, own⟩ := constant
    cases kind with
    | struct => cases own <;> simp [put, addPushConstant, mapPushConstants, TableEntry.kind]
    | uniform => cases own <;> simp [put, addPushConstant, mapPushConstants, TableEntry.kind]
    | pushConstant stage =>
      cases own <;> cases stage <;>
        simp [put, addPushConstant, mapPushConstants, pushConstants, TableEntry.kind,
          TableEntry.name, Table.mem_insert]

theorem redeclared_of_fresh (fresh : d.declares kind name = false) :
    d.redeclared kind name = [] := by
  simp [redeclared, fresh]

/-- A new name goes to the end of its table, and the other tables stay. -/
theorem put_entries (fresh : d.declares entry.kind entry.name = false) :
    (d.put entry).structs.entries = d.structs.entries ++ entry.inStructs ∧
      (d.put entry).uniforms.entries = d.uniforms.entries ++ entry.inUniforms ∧
      ∀ stage, ((d.put entry).pushConstants stage).entries =
        (d.pushConstants stage).entries ++ entry.inPushConstants stage := by
  cases entry with
  | struct name fields =>
    have absent : name ∉ d.structs := of_decide_eq_false fresh
    refine ⟨Table.entries_insert_of_not_mem absent, (List.append_nil _).symm, ?_⟩
    intro stage
    cases stage <;> exact (List.append_nil _).symm
  | uniform block =>
    have absent : block.name ∉ d.uniforms := of_decide_eq_false fresh
    refine ⟨(List.append_nil _).symm, Table.entries_insert_of_not_mem absent, ?_⟩
    intro stage
    cases stage <;> exact (List.append_nil _).symm
  | pushConstant constant =>
    obtain ⟨block, own⟩ := constant
    have absent : block.name ∉ d.pushConstants own := of_decide_eq_false fresh
    have stays (entries : List (Text × PushConstant)) : entries = entries ++ [] := by simp
    cases own with
    | vertex =>
      refine ⟨(List.append_nil _).symm, (List.append_nil _).symm, ?_⟩
      intro stage
      cases stage with
      | vertex => exact Table.entries_insert_of_not_mem absent
      | fragment => exact stays _
    | fragment =>
      refine ⟨(List.append_nil _).symm, (List.append_nil _).symm, ?_⟩
      intro stage
      cases stage with
      | vertex => exact stays _
      | fragment => exact Table.entries_insert_of_not_mem absent

/-- No entry of the list is declared yet. -/
def Fresh (d : Declarations) (entries : List TableEntry) : Prop :=
  ∀ entry ∈ entries, d.declares entry.kind entry.name = false

theorem Fresh.empty (entries : List TableEntry) : Declarations.empty.Fresh entries := by
  intro entry _
  cases entry with
  | struct name fields => rfl
  | uniform block => rfl
  | pushConstant constant =>
    obtain ⟨block, stage⟩ := constant
    cases stage <;> rfl

/-- What comes after an entry is still new when the entry has been put. -/
theorem Fresh.put {rest : List TableEntry} (fresh : d.Fresh (entry :: rest))
    (distinct : TableEntry.Distinct (entry :: rest)) : (d.put entry).Fresh rest := by
  intro other member
  have apart := (List.pairwise_cons.1 distinct).1 other member
  have before := fresh other (List.mem_cons_of_mem entry member)
  rw [← Bool.not_eq_true, declares_put, not_or]
  exact ⟨apart, by simp [before]⟩

/-- New entries with distinct names go to the ends of their tables, in order. -/
theorem foldl_put_entries {entries : List TableEntry} (distinct : TableEntry.Distinct entries)
    (fresh : d.Fresh entries) :
    (entries.foldl put d).structs.entries =
        d.structs.entries ++ entries.flatMap TableEntry.inStructs ∧
      (entries.foldl put d).uniforms.entries =
        d.uniforms.entries ++ entries.flatMap TableEntry.inUniforms ∧
      ∀ stage, ((entries.foldl put d).pushConstants stage).entries =
        (d.pushConstants stage).entries ++ entries.flatMap (TableEntry.inPushConstants stage) := by
  induction entries generalizing d with
  | nil => simp
  | cons entry rest ih =>
    obtain ⟨structs, uniforms, constants⟩ := put_entries (fresh entry (by simp))
    obtain ⟨restStructs, restUniforms, restConstants⟩ :=
      ih (List.pairwise_cons.1 distinct).2 (fresh.put distinct)
    simp only [List.foldl_cons, List.flatMap_cons, ← List.append_assoc]
    refine ⟨?_, ?_, fun stage => ?_⟩
    · rw [restStructs, structs]
    · rw [restUniforms, uniforms]
    · rw [restConstants, constants]

end Declarations
end ShaderInterface
