import ShaderInterface.Proofs.Header.CStructs
import ShaderInterface.Proofs.Header.Pieces
import ShaderInterface.Proofs.KnownTypes

set_option autoImplicit false

namespace ShaderInterface

open CStruct (Declares DeclaresMembers opened? member? declares_row)

/-- The name and the names of the fields are read back from rows. -/
structure Block.IsReadable (block : Block) : Prop where
  whole : '\n' ∉ block.name
  solid : ∀ field ∈ block.fields, field.name.IsSolid

namespace Header

variable {primitives : PrimitiveTable} {shaderName name text : Text} {field : Field}
  {fields : List Field} {d : Declarations}

def members (primitives : PrimitiveTable) (fields : List Field) : List Text :=
  (fields.filter (Field.isStored primitives)).map fun field => member field.name

def mirrors (primitives : PrimitiveTable) (shaderName : Text) (d : Declarations) : List CStruct :=
  ((d.uniforms.values.filter fun block => !block.isResource).map fun block =>
    ⟨shaderName ++ "_" ++ block.name, members primitives block.fields⟩) ++
  (d.vertexPushConstants.values ++ d.fragmentPushConstants.values).map fun block =>
    ⟨shaderName ++ "_" ++ block.name ++ "_push", members primitives block.fields⟩

theorem isSolid_member (solid : name.IsSolid) : (member name).IsSolid := by
  refine ⟨?_, ?_⟩
  · simpa [member, Text.replaceChar] using solid.present
  · intro c present
    obtain ⟨old, inside, rfl⟩ := List.mem_map.1 present
    split
    · decide
    · exact solid.solid old inside

theorem opened?_of_blank (row : Text) : opened? (' ' :: row) = none := rfl

theorem memberLine_declares (plain : primitives.OnOneLine) (solid : field.name.IsSolid)
    (written : memberLine primitives field = .ok text) :
    DeclaresMembers text (members primitives [field]) := by
  rw [memberLine] at written
  split at written
  · cases written
  · next primitive known =>
    cases written
    have stored : field.isStored primitives = primitive.cType?.isSome := by
      rw [Field.isStored, known, Option.any_some, Primitive.isResource, Option.not_isNone]
    cases storage : primitive.cType? with
    | none =>
      have skipped : members primitives [field] = [] := by simp [members, stored, storage]
      rw [skipped]
      exact .nil
    | some cType =>
      have kept : members primitives [field] = [member field.name] := by
        simp [members, stored, storage]
      have shown := CStruct.member?_row ("  " ++ cType) (isSolid_member solid)
      refine ⟨["  " ++ cType ++ " " ++ member field.name ++ ";"], by simp [Text.ofRows], ?_, ?_⟩
      · simp only [List.mem_singleton, forall_eq]
        refine ⟨?_, opened?_of_blank _, by simp⟩
        have typeWhole := plain _ _ _ known storage
        have nameWhole := (isSolid_member solid).noNewline
        simp [typeWhole, nameWhole]
      · rw [kept, List.filterMap_cons_some shown, List.filterMap_nil]

theorem members_cons : members primitives (field :: fields) =
    members primitives [field] ++ members primitives fields := by
  rw [members, members, members, ← List.map_append, ← List.filter_append, List.singleton_append]

theorem members_declares {lines : List Text} (plain : primitives.OnOneLine)
    (solid : ∀ field ∈ fields, field.name.IsSolid)
    (written : fields.mapM (memberLine primitives) = .ok lines) :
    DeclaresMembers lines.flatten (members primitives fields) := by
  have each := Fallible.mapM_ok written
  clear written
  induction each with
  | nil => exact .nil
  | cons here _ ih =>
    obtain ⟨first, later⟩ := List.forall_mem_cons.1 solid
    rw [List.flatten_cons, members_cons]
    exact (memberLine_declares plain first here).append (ih later)

theorem struct_declares (plain : primitives.OnOneLine) (whole : '\n' ∉ name)
    (solid : ∀ field ∈ fields, field.name.IsSolid)
    (written : struct primitives name fields = .ok text) :
    Declares text [⟨name, members primitives fields⟩] := by
  rw [struct] at written
  obtain ⟨lines, made, rfl⟩ := Fallible.map_eq_ok_iff.1 written
  exact (members_declares plain solid made).enclose whole

/-- The structs of blocks under their names. -/
theorem mapM_struct_declares {β : Type} {blocks : List β} {texts : List Text} {nameOf : β → Text}
    {fieldsOf : β → List Field} (plain : primitives.OnOneLine)
    (whole : ∀ block ∈ blocks, '\n' ∉ nameOf block ∧ ∀ field ∈ fieldsOf block, field.name.IsSolid)
    (written : blocks.mapM (fun block => struct primitives (nameOf block) (fieldsOf block)) =
      .ok texts) :
    Declares texts.flatten
      (blocks.map fun block => ⟨nameOf block, members primitives (fieldsOf block)⟩) := by
  have each := Fallible.mapM_ok written
  clear written
  induction each with
  | nil => exact .nil
  | cons here _ ih =>
    obtain ⟨⟨named, solid⟩, later⟩ := List.forall_mem_cons.1 whole
    exact (struct_declares plain named solid here).append (ih later)

theorem structs_declare {texts : List Text} (plain : primitives.OnOneLine)
    (shader : '\n' ∉ shaderName)
    (uniforms : ∀ block ∈ d.uniforms.values, block.IsReadable)
    (pushConstants : ∀ block ∈ d.vertexPushConstants.values ++ d.fragmentPushConstants.values,
      block.IsReadable)
    (written : structs primitives shaderName d = .ok texts) :
    Declares texts.flatten (mirrors primitives shaderName d) := by
  obtain ⟨buffers, pushed, first, second, rfl⟩ := structs_eq_ok_iff.1 written
  rw [List.flatten_append]
  refine (mapM_struct_declares plain ?_ first).append (mapM_struct_declares plain ?_ second)
  · intro block member
    obtain ⟨whole, solid⟩ := uniforms block (List.mem_filter.1 member).1
    exact ⟨by simp [shader, whole], solid⟩
  · intro block member
    obtain ⟨whole, solid⟩ := pushConstants block member
    exact ⟨by simp [shader, whole], solid⟩

theorem countLine_declares (rows : List Text) (whole : '\n' ∉ name) :
    Declares (countLine name rows) [] := by
  have digits := Text.noNewline_decimal rows.length
  refine CStruct.declares_line ";" ?_ (by decide) rfl
  simp [whole, digits]

theorem rowArray_declares {elementType : Text} {rows : List Text} (element : '\n' ∉ elementType)
    (whole : '\n' ∉ name) (each : ∀ row ∈ rows, Declares row []) :
    Declares (rowArray elementType name rows) [] := by
  rw [rowArray]
  split
  · exact .nil
  · have opening : Declares ("const " ++ elementType ++ " " ++ name ++ "[] = \x7b\n") [] :=
      CStruct.declares_line "[] = \x7b" (by simp [element, whole]) (by decide) rfl
    have closing : Declares ("\x7d;".toList ++ ['\n']) [] := declares_row (by decide) rfl
    exact (opening.append (.nothing each)).append closing

/-- The text is one line in braces, as the rows of a table are. -/
def IsTableRow (text : Text) : Prop :=
  ∃ inside : Text, '\n' ∉ inside ∧ "  \x7b" ++ inside ++ " \x7d,\n" = text

theorem bindingRow_isTableRow (block : Block) : IsTableRow (bindingRow primitives block) := by
  have group := Text.noNewline_decimal block.group
  have binding := Text.noNewline_decimal block.binding
  have size := Text.noNewline_decimal (fieldsSize primitives block.fields)
  have descriptor : '\n' ∉ descriptorType block := by
    rw [descriptorType]
    split <;> decide
  refine ⟨" .group = " ++ Text.decimal block.group ++ ", .binding = " ++
    Text.decimal block.binding ++ ", .type = " ++ descriptorType block ++ ", .size = " ++
    Text.decimal (fieldsSize primitives block.fields), ?_, ?_⟩
  · simp [group, binding, size, descriptor]
  · have opening : "  \x7b .group = ".toList = "  \x7b".toList ++ " .group = ".toList := rfl
    unfold bindingRow
    rw [opening]
    simp only [List.append_assoc]

theorem rangeRow_isTableRow (range : PushRange) : IsTableRow (rangeRow range) := by
  have offset := Text.noNewline_decimal range.offset
  have size := Text.noNewline_decimal range.size
  have flag : '\n' ∉ stageFlag range.stage := by cases range.stage <;> decide
  refine ⟨" .stageFlags = " ++ stageFlag range.stage ++ ", .offset = " ++
    Text.decimal range.offset ++ ", .size = " ++ Text.decimal range.size, ?_, ?_⟩
  · simp [offset, size, flag]
  · have opening : "  \x7b .stageFlags = ".toList =
        "  \x7b".toList ++ " .stageFlags = ".toList := rfl
    unfold rangeRow
    rw [opening]
    simp only [List.append_assoc]

theorem IsTableRow.declares (row : IsTableRow text) : Declares text [] := by
  obtain ⟨inside, whole, rfl⟩ := row
  exact CStruct.declares_line " \x7d," (by simp [whole]) (by decide) rfl

/-- The part of a shader declares the structs of its buffers and push constants. -/
theorem shaderPart_declares (plain : primitives.OnOneLine) (shader : '\n' ∉ shaderName)
    (uniforms : ∀ block ∈ d.uniforms.values, block.IsReadable)
    (pushConstants : ∀ block ∈ d.vertexPushConstants.values ++ d.fragmentPushConstants.values,
      block.IsReadable)
    (written : shaderPart primitives shaderName d = .ok text) :
    Declares text (mirrors primitives shaderName d) := by
  obtain ⟨texts, made, rfl⟩ := shaderPart_eq_ok_iff.1 written
  have title : Declares ("// " ++ shaderName ++ "\n") [] := by
    refine CStruct.declares_line [] ?_ nofun ?_
    · simp [shader]
    · rfl
  have buffers := structs_declare plain shader uniforms pushConstants made
  have bindings : Declares (bindingTable primitives shaderName d) [] := by
    refine (countLine_declares _ ?_).append (rowArray_declares (by decide) ?_ ?_)
    · simp [shader]
    · simp [shader]
    · simp only [List.forall_mem_map]
      exact fun block _ => (bindingRow_isTableRow block).declares
  have ranges : Declares (rangeTable primitives shaderName d) [] := by
    refine (countLine_declares _ ?_).append (rowArray_declares (by decide) ?_ ?_)
    · simp [shader]
    · simp [shader]
    · simp only [List.forall_mem_map]
      exact fun range _ => (rangeRow_isTableRow range).declares
  have blank : Declares ([] ++ ['\n']) [] := declares_row nofun rfl
  have whole := (((title.append buffers).append bindings).append ranges).append blank
  simpa using whole

end Header
end ShaderInterface
