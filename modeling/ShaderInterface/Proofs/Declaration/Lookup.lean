import ShaderInterface.Proofs.Declaration.Entries

set_option autoImplicit false

namespace ShaderInterface.Declarations

variable {d : Declarations} {entry : TableEntry} {kind own : DeclarationKind} {name key : Text}
  {fields : List Field}

def names (d : Declarations) : DeclarationKind → List Text
  | .struct => d.structs.keys
  | .uniform => d.uniforms.keys
  | .pushConstant stage => (d.pushConstants stage).keys

def stored? (d : Declarations) (kind : DeclarationKind) (name : Text) : Option TableEntry :=
  match kind with
  | .struct => (d.structs.find? name).map (.struct name)
  | .uniform => (d.uniforms.find? name).map .uniform
  | .pushConstant stage => ((d.pushConstants stage).find? name).map .pushConstant

theorem declares_iff_mem_names : d.declares kind name = true ↔ name ∈ d.names kind := by
  cases kind <;> exact decide_eq_true_iff

theorem isSome_stored?_iff : (d.stored? kind name).isSome = true ↔ name ∈ d.names kind := by
  cases kind <;> simp only [stored?, Option.isSome_map] <;> exact Table.isSome_find?_iff

theorem stored?_eq_none_iff : d.stored? kind name = none ↔ name ∉ d.names kind := by
  rw [← isSome_stored?_iff]
  simp

theorem names_empty (kind : DeclarationKind) : Declarations.empty.names kind = [] := by
  cases kind with
  | struct => rfl
  | uniform => rfl
  | pushConstant stage => cases stage <;> rfl

theorem stored?_empty (kind : DeclarationKind) (name : Text) :
    Declarations.empty.stored? kind name = none := by
  rw [stored?_eq_none_iff, names_empty]
  exact List.not_mem_nil

theorem pushConstants_mapPushConstants {stage changed : Stage}
    {f : Table Text PushConstant → Table Text PushConstant} :
    (d.mapPushConstants changed f).pushConstants stage =
      if stage = changed then f (d.pushConstants stage) else d.pushConstants stage := by
  cases changed <;> cases stage <;> rfl

/-- The other tables do not see a new declaration. -/
theorem put_of_kind_ne (other : kind ≠ entry.kind) :
    (d.put entry).names kind = d.names kind ∧
      ∀ name, (d.put entry).stored? kind name = d.stored? kind name := by
  cases entry with
  | struct name fields => cases kind <;> first | exact absurd rfl other | exact ⟨rfl, fun _ => rfl⟩
  | uniform block => cases kind <;> first | exact absurd rfl other | exact ⟨rfl, fun _ => rfl⟩
  | pushConstant constant =>
    obtain ⟨block, own⟩ := constant
    cases kind with
    | struct => cases own <;> exact ⟨rfl, fun _ => rfl⟩
    | uniform => cases own <;> exact ⟨rfl, fun _ => rfl⟩
    | pushConstant stage =>
      have apart : stage ≠ own := fun same => other (congrArg _ same)
      simp [names, stored?, put, addPushConstant, pushConstants_mapPushConstants, apart]

/-- A name that is there keeps its place. -/
theorem names_put_of_mem (present : entry.name ∈ d.names entry.kind) :
    (d.put entry).names entry.kind = d.names entry.kind := by
  cases entry with
  | struct name fields => exact (Table.keys_insert _ _ _).trans (if_pos present)
  | uniform block => exact (Table.keys_insert _ _ _).trans (if_pos present)
  | pushConstant constant =>
    obtain ⟨block, stage⟩ := constant
    cases stage <;> exact (Table.keys_insert _ _ _).trans (if_pos present)

/-- A new name comes last in its table. -/
theorem names_put_of_not_mem (absent : entry.name ∉ d.names entry.kind) :
    (d.put entry).names entry.kind = d.names entry.kind ++ [entry.name] := by
  cases entry with
  | struct name fields => exact (Table.keys_insert _ _ _).trans (if_neg absent)
  | uniform block => exact (Table.keys_insert _ _ _).trans (if_neg absent)
  | pushConstant constant =>
    obtain ⟨block, stage⟩ := constant
    cases stage <;> exact (Table.keys_insert _ _ _).trans (if_neg absent)

theorem stored?_put_self : (d.put entry).stored? entry.kind entry.name = some entry := by
  cases entry with
  | struct name fields => exact congrArg (Option.map _) (Table.find?_insert_self _ _ _)
  | uniform block => exact congrArg (Option.map _) (Table.find?_insert_self _ _ _)
  | pushConstant constant =>
    obtain ⟨block, stage⟩ := constant
    cases stage <;> exact congrArg (Option.map _) (Table.find?_insert_self _ _ _)

theorem stored?_put_of_ne (other : name ≠ entry.name) :
    (d.put entry).stored? entry.kind name = d.stored? entry.kind name := by
  cases entry with
  | struct own fields => exact congrArg (Option.map _) (Table.find?_insert_of_ne _ _ other)
  | uniform block => exact congrArg (Option.map _) (Table.find?_insert_of_ne _ _ other)
  | pushConstant constant =>
    obtain ⟨block, stage⟩ := constant
    cases stage <;> exact congrArg (Option.map _) (Table.find?_insert_of_ne _ _ other)

/-- What is put stands under its name in the table of its kind, whose other names and all other
tables keep what they have. -/
theorem stored?_put :
    (d.put entry).stored? kind name =
      if kind = entry.kind ∧ name = entry.name then some entry else d.stored? kind name := by
  by_cases own : kind = entry.kind
  · by_cases same : name = entry.name
    · rw [own, same, if_pos ⟨rfl, rfl⟩, stored?_put_self]
    · rw [own, if_neg fun both => same both.2, stored?_put_of_ne same]
  · rw [if_neg fun both => own both.1, (put_of_kind_ne own).2]

/-- The name of what is put comes last in the table of its kind, unless it is there already. -/
theorem names_put :
    (d.put entry).names kind =
      if kind = entry.kind ∧ entry.name ∉ d.names entry.kind then d.names kind ++ [entry.name]
      else d.names kind := by
  by_cases own : kind = entry.kind
  · by_cases present : entry.name ∈ d.names entry.kind
    · rw [own, if_neg fun new => new.2 present, names_put_of_mem present]
    · rw [own, if_pos ⟨rfl, present⟩, names_put_of_not_mem present]
  · rw [if_neg fun both => own both.1, (put_of_kind_ne own).1]

theorem mem_names_put :
    name ∈ (d.put entry).names kind ↔
      (kind = entry.kind ∧ name = entry.name) ∨ name ∈ d.names kind := by
  rw [← declares_iff_mem_names, declares_put, declares_iff_mem_names]

/-- The other tables do not see a new field. -/
theorem addField_of_kind_ne (other : kind ≠ own) (field : Field) :
    (d.addField own key field).names kind = d.names kind ∧
      ∀ name, (d.addField own key field).stored? kind name = d.stored? kind name := by
  cases own with
  | struct => cases kind <;> first | exact absurd rfl other | exact ⟨rfl, fun _ => rfl⟩
  | uniform => cases kind <;> first | exact absurd rfl other | exact ⟨rfl, fun _ => rfl⟩
  | pushConstant changed =>
    cases kind with
    | struct => cases changed <;> exact ⟨rfl, fun _ => rfl⟩
    | uniform => cases changed <;> exact ⟨rfl, fun _ => rfl⟩
    | pushConstant stage =>
      have apart : stage ≠ changed := fun same => other (congrArg _ same)
      simp [names, stored?, addField, pushConstants_mapPushConstants, apart]

theorem names_addField_self (field : Field) :
    (d.addField kind key field).names kind = d.names kind := by
  cases kind with
  | struct => exact Table.keys_modify _ _ _
  | uniform => exact Table.keys_modify _ _ _
  | pushConstant stage =>
    simp only [names, addField, pushConstants_mapPushConstants, if_true, Table.keys_modify]

theorem names_addField (field : Field) : (d.addField own key field).names kind = d.names kind := by
  by_cases same : kind = own
  · rw [same, names_addField_self]
  · exact (addField_of_kind_ne same field).1

theorem stored?_addField_self (field : Field) :
    (d.addField kind key field).stored? kind name =
      (d.stored? kind name).map fun entry =>
        if name = key then entry.addFields [field] else entry := by
  cases kind with
  | struct =>
    simp only [stored?, addField, Table.find?_modify, Option.map_map]
    congr 1
    funext fields
    by_cases same : name = key <;> simp [same, TableEntry.addFields]
  | uniform =>
    simp only [stored?, addField, Table.find?_modify, Option.map_map]
    congr 1
    funext block
    by_cases same : name = key <;> simp [same, TableEntry.addFields, Block.addField]
  | pushConstant stage =>
    simp only [stored?, addField, pushConstants_mapPushConstants, if_true, Table.find?_modify,
      Option.map_map]
    congr 1
    funext constant
    by_cases same : name = key <;> simp [same, TableEntry.addFields, Block.addField]

theorem stored?_addField (field : Field) :
    (d.addField own key field).stored? kind name =
      if kind = own ∧ name = key then (d.stored? kind name).map (TableEntry.addFields [field])
      else d.stored? kind name := by
  by_cases same : kind = own
  · rw [← same, stored?_addField_self]
    by_cases found : name = key <;> simp [found]
  · rw [(addField_of_kind_ne same field).2, if_neg fun both => same both.1]

def addFields (d : Declarations) (kind : DeclarationKind) (name : Text) (fields : List Field) :
    Declarations :=
  fields.foldl (fun d field => d.addField kind name field) d

theorem addFields_append (first second : List Field) :
    d.addFields kind name (first ++ second) =
      (d.addFields kind name first).addFields kind name second :=
  List.foldl_append

/-- Fields added under the name that was put last go to what was put there. -/
theorem addFields_put (d : Declarations) (entry : TableEntry) (fields : List Field) :
    (d.put entry).addFields entry.kind entry.name fields = d.put (entry.addFields fields) := by
  induction fields generalizing entry with
  | nil => exact congrArg d.put entry.addFields_nil.symm
  | cons field rest ih =>
    have later := ih (entry.addFields [field])
    rw [TableEntry.kind_addFields, TableEntry.name_addFields,
      TableEntry.addFields_addFields] at later
    rw [addFields, List.foldl_cons, addField_put]
    exact later

theorem names_addFields : (d.addFields own key fields).names kind = d.names kind := by
  induction fields generalizing d with
  | nil => rfl
  | cons field rest ih => exact ih.trans (names_addField field)

theorem stored?_addFields :
    (d.addFields own key fields).stored? kind name =
      if kind = own ∧ name = key then (d.stored? kind name).map (TableEntry.addFields fields)
      else d.stored? kind name := by
  induction fields generalizing d with
  | nil =>
    split
    · have kept : TableEntry.addFields [] = id := funext TableEntry.addFields_nil
      rw [kept, Option.map_id]
      rfl
    · rfl
  | cons field rest ih =>
    refine ih.trans ?_
    rw [stored?_addField]
    split
    · rw [Option.map_map]
      congr 1
      funext entry
      exact TableEntry.addFields_addFields _ _ _
    · rfl

end ShaderInterface.Declarations
