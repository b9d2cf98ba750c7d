import ShaderInterface.Proofs.Header.Completeness
import ShaderInterface.Proofs.Header.Structs
import ShaderInterface.Proofs.Interface.WholeNames

set_option autoImplicit false

namespace ShaderInterface

namespace Text

variable {α : Type} {read : Text → Option α} {text other left : Text} {values more : List α}

/-- The text is rows, and these are the values that are read from them. -/
def RowsRead (read : Text → Option α) (text : Text) (values : List α) : Prop :=
  ∃ rows, text = ofRows rows ∧ (∀ row ∈ rows, '\n' ∉ row) ∧ rows.filterMap read = values

namespace RowsRead

theorem nil : RowsRead read [] [] := ⟨[], rfl, nofun, rfl⟩

theorem append (first : RowsRead read text values) (second : RowsRead read other more) :
    RowsRead read (text ++ other) (values ++ more) := by
  obtain ⟨rows, rfl, whole, rfl⟩ := first
  obtain ⟨others, rfl, wholeOthers, rfl⟩ := second
  exact ⟨rows ++ others, ofRows_append.symm, List.forall_mem_append.2 ⟨whole, wholeOthers⟩,
    List.filterMap_append⟩

theorem line (tail : Text) (whole : '\n' ∉ left) (ends : '\n' ∉ tail)
    (shown : (read (left ++ tail)).toList = values) :
    RowsRead read (left ++ (tail ++ ['\n'])) values := by
  refine ⟨[left ++ tail], by simp [ofRows], by simp [whole, ends], ?_⟩
  rw [← shown, List.filterMap_cons]
  cases read (left ++ tail) <;> rfl

theorem flatten {texts : List Text} (each : ∀ text ∈ texts, RowsRead read text []) :
    RowsRead read texts.flatten [] := by
  induction texts with
  | nil => exact .nil
  | cons first rest ih =>
    obtain ⟨here, later⟩ := List.forall_mem_cons.1 each
    exact here.append (ih later)

theorem filterMap_splitOn (shown : RowsRead read text values) (blank : read [] = none) :
    (text.splitOn '\n').filterMap read = values := by
  obtain ⟨rows, rfl, whole, rfl⟩ := shown
  rw [splitOn_ofRows whole, List.filterMap_append, List.filterMap_cons_none blank]
  exact List.append_nil _

end RowsRead
end Text

namespace Header

open Text (RowsRead)

/-- The name of the shader whose bindings the row counts. -/
def counted? (row : Text) : Option Text :=
  (Text.dropLead? "const u32 " row).bind fun definition =>
    (Text.cutAt? '=' definition).bind fun cut => Text.dropEnd? "_binding_count " cut.1

/-- The shaders whose bindings are counted in a C text, one for each such constant. -/
def countedIn (text : Text) : List Text := (text.splitOn '\n').filterMap counted?

variable {primitives : PrimitiveTable} {shaderName name text : Text} {field : Field}
  {fields : List Field} {d : Declarations}

theorem counted?_constant (unequal : '=' ∉ name) (tail : Text) :
    counted? ("const u32 " ++ name ++ " = " ++ tail) =
      Text.dropEnd? "_binding_count " (name ++ " ") := by
  have spelled : "const u32 ".toList ++ name ++ " = " ++ tail =
      "const u32 ".toList ++ ((name ++ " ") ++ '=' :: ' ' :: tail) := by
    simp
  have absent : '=' ∉ name ++ " ".toList := by simp [unequal]
  rw [counted?, spelled, Text.dropLead?_append, Option.bind_some, Text.cutAt?_append_cons absent,
    Option.bind_some]

theorem memberLine_rows (plain : primitives.OnOneLine) (solid : field.name.IsSolid)
    (written : memberLine primitives field = .ok text) : RowsRead counted? text [] := by
  rw [memberLine] at written
  split at written
  · cases written
  · next primitive known =>
    cases written
    cases storage : primitive.cType? with
    | none => exact .nil
    | some cType =>
      have typeWhole := plain _ _ _ known storage
      have nameWhole := (isSolid_member solid).noNewline
      exact .line ";" (by simp [typeWhole, nameWhole]) (by decide) rfl

theorem struct_rows (plain : primitives.OnOneLine) (whole : '\n' ∉ name)
    (solid : ∀ field ∈ fields, field.name.IsSolid)
    (written : struct primitives name fields = .ok text) : RowsRead counted? text [] := by
  rw [struct] at written
  obtain ⟨lines, made, rfl⟩ := Fallible.map_eq_ok_iff.1 written
  have opening : RowsRead counted? ("struct " ++ name ++ " \x7b\n") [] :=
    .line " \x7b" (by simp [whole]) (by decide) rfl
  have members : ∀ line ∈ lines, RowsRead counted? line [] :=
    Fallible.forall_of_mapM made fun field among _ here =>
      memberLine_rows plain (solid field among) here
  have closing : RowsRead counted? "\x7d;\n\n" [] :=
    ⟨["\x7d;".toList, []], rfl, by decide, rfl⟩
  exact (opening.append (.flatten members)).append closing

theorem countLine_rows (name : Text) (rows : List Text) (whole : '\n' ∉ name)
    (unequal : '=' ∉ name) :
    RowsRead counted? (countLine name rows)
      (Text.dropEnd? "_binding_count " (name ++ " ")).toList := by
  have digits := Text.noNewline_decimal rows.length
  refine .line ";" (by simp [whole, digits]) (by decide) ?_
  rw [← counted?_constant unequal (Text.decimal rows.length ++ ";"), List.append_assoc]

theorem rowArray_rows {elementType : Text} {rows : List Text} (element : '\n' ∉ elementType)
    (whole : '\n' ∉ name)
    (other : ∀ tail, Text.dropLead? "const u32 " ("const " ++ elementType ++ tail) = none)
    (each : ∀ row ∈ rows, RowsRead counted? row []) :
    RowsRead counted? (rowArray elementType name rows) [] := by
  rw [rowArray]
  split
  · exact .nil
  · have opening : RowsRead counted? ("const " ++ elementType ++ " " ++ name ++ "[] = \x7b\n")
        [] := by
      refine .line "[] = \x7b" (by simp [element, whole]) (by decide) ?_
      have uncounted := other (" " ++ name ++ "[] = \x7b")
      simp only [List.append_assoc] at uncounted ⊢
      rw [counted?, uncounted]
      rfl
    have closing : RowsRead counted? "\x7d;\n" [] := ⟨["\x7d;".toList], rfl, by decide, rfl⟩
    exact (opening.append (.flatten each)).append closing

theorem IsTableRow.uncounted (row : IsTableRow text) : RowsRead counted? text [] := by
  obtain ⟨inside, whole, rfl⟩ := row
  exact .line " \x7d," (by simp [whole]) (by decide) rfl

theorem bindingTable_rows (shader : '\n' ∉ shaderName) (unequal : '=' ∉ shaderName) :
    RowsRead counted? (bindingTable primitives shaderName d) [shaderName] := by
  have suffixed : Text.dropEnd? "_binding_count " (shaderName ++ "_binding_count" ++ " ") =
      some shaderName := by
    have joined : "_binding_count".toList ++ " ".toList = "_binding_count ".toList := rfl
    rw [List.append_assoc, joined, Text.dropEnd?_append]
  have count := countLine_rows (shaderName ++ "_binding_count")
    ((sortedBindings d).map (bindingRow primitives)) (by simp [shader]) (by simp [unequal])
  rw [suffixed] at count
  refine count.append (rowArray_rows (by decide) (by simp [shader]) (fun _ => rfl) ?_)
  simp only [List.forall_mem_map]
  exact fun block _ => (bindingRow_isTableRow block).uncounted

theorem rangeTable_rows (shader : '\n' ∉ shaderName) (unequal : '=' ∉ shaderName) :
    RowsRead counted? (rangeTable primitives shaderName d) [] := by
  have other : Text.dropEnd? "_binding_count "
      (shaderName ++ "_push_constant_range_count" ++ " ") = none := by
    rw [Text.dropEnd?, List.append_assoc, List.reverse_append]
    rfl
  have count := countLine_rows (shaderName ++ "_push_constant_range_count")
    ((d.pushRanges primitives).map rangeRow) (by simp [shader]) (by simp [unequal])
  rw [other] at count
  refine count.append (rowArray_rows (by decide) (by simp [shader]) (fun _ => rfl) ?_)
  simp only [List.forall_mem_map]
  exact fun range _ => (rangeRow_isTableRow range).uncounted

theorem structs_rows {texts : List Text} (plain : primitives.OnOneLine)
    (shader : '\n' ∉ shaderName)
    (uniforms : ∀ block ∈ d.uniforms.values, block.IsReadable)
    (pushConstants : ∀ block ∈ d.vertexPushConstants.values ++ d.fragmentPushConstants.values,
      block.IsReadable)
    (written : structs primitives shaderName d = .ok texts) :
    RowsRead counted? texts.flatten [] := by
  obtain ⟨buffers, pushed, first, second, rfl⟩ := structs_eq_ok_iff.1 written
  refine .flatten (List.forall_mem_append.2 ⟨Fallible.forall_of_mapM first ?_,
    Fallible.forall_of_mapM second ?_⟩)
  · intro block member text here
    obtain ⟨whole, solid⟩ := uniforms block (List.mem_filter.1 member).1
    exact struct_rows plain (by simp [shader, whole]) solid here
  · intro block member text here
    obtain ⟨whole, solid⟩ := pushConstants block member
    exact struct_rows plain (by simp [shader, whole]) solid here

/-- The part of a shader counts bindings once, under the name of the shader. -/
theorem shaderPart_rows (plain : primitives.OnOneLine) (shader : '\n' ∉ shaderName)
    (unequal : '=' ∉ shaderName)
    (uniforms : ∀ block ∈ d.uniforms.values, block.IsReadable)
    (pushConstants : ∀ block ∈ d.vertexPushConstants.values ++ d.fragmentPushConstants.values,
      block.IsReadable)
    (written : shaderPart primitives shaderName d = .ok text) :
    RowsRead counted? text [shaderName] := by
  obtain ⟨texts, made, rfl⟩ := shaderPart_eq_ok_iff.1 written
  have title : RowsRead counted? ("// " ++ shaderName ++ "\n") [] :=
    .line [] (by simp [shader]) nofun rfl
  have buffers := structs_rows plain shader uniforms pushConstants made
  have bindings : RowsRead counted? (bindingTable primitives shaderName d) [shaderName] :=
    bindingTable_rows shader unequal
  have ranges : RowsRead counted? (rangeTable primitives shaderName d) [] :=
    rangeTable_rows shader unequal
  have blank : RowsRead counted? "\n" [] := ⟨[[]], rfl, by decide, rfl⟩
  exact (((title.append buffers).append bindings).append ranges).append blank

theorem preamble_rows : RowsRead counted? preamble [] := by
  let rows := (preamble.splitOn '\n').dropLast
  have read : preamble = Text.ofRows rows ∧ (∀ row ∈ rows, '\n' ∉ row) ∧
      rows.filterMap counted? = [] := by
    unfold rows preamble
    -- spelled out, the literals are cheap to compute with
    repeat rw [String.toList_ofList]
    decide +kernel
  exact ⟨rows, read⟩

end Header

namespace Interface

variable {settings : Settings} {sourceName source : Text} {i : Interface}

/-- The blocks of a resolved interface are read back from rows. -/
theorem ofSource_isReadable (success : (ofSource settings sourceName source).result = .ok i) :
    (∀ block ∈ i.uniforms.values, block.IsReadable) ∧
      ∀ block ∈ i.vertexPushConstants.values ++ i.fragmentPushConstants.values,
        block.IsReadable := by
  obtain ⟨wholeUniforms, wholePushed⟩ := ofSource_namesWhole success
  obtain ⟨stated, read, resolved⟩ := ofSource_eq_ok_iff.1 success
  obtain ⟨named, written⟩ := ofLines_ok read
  have solid : ∀ stage name block, (i.pushConstants stage).find? name = some block →
      ∀ field ∈ block.fields, field.name.IsSolid :=
    fun _ _ _ found => (resolve_pushConstant_names resolved named written found).2
  refine ⟨fun block stored => ⟨wholeUniforms block stored, ?_⟩,
    fun block stored => ⟨wholePushed block stored, ?_⟩⟩
  · obtain ⟨name, found⟩ := Table.mem_values_iff.1 stored
    exact (resolve_uniform_names resolved named written found).2
  · rcases List.mem_append.1 stored with vertex | fragment
    · obtain ⟨name, found⟩ := Table.mem_values_iff.1 vertex
      exact solid .vertex name block found
    · obtain ⟨name, found⟩ := Table.mem_values_iff.1 fragment
      exact solid .fragment name block found

end Interface
end ShaderInterface
