import ShaderInterface.Proofs.Containment.Sizes
import ShaderInterface.Proofs.Header.StructNames

set_option autoImplicit false

namespace ShaderInterface

namespace Text

variable {left right : Text}

theorem words_append_blank (left right : Text) :
    words (left ++ ' ' :: right) = words left ++ words right := by
  have blank : isBlank ' ' = true := by decide
  rw [words, List.splitOnP_append_cons _ _ blank, List.filter_append, ← words, ← words]

theorem isSolid_decimal (n : Int) : (decimal n).IsSolid := by
  constructor
  · cases n with
    | ofNat n => exact decimal_ne_nil n
    | negSucc n => exact List.cons_ne_nil _ _
  · intro c member
    rcases minus_or_isDigit_of_mem_decimal member with rfl | digit
    · decide
    · exact isBlank_of_isNameChar (isNameChar_of_isDigit digit)

end Text

namespace Header

variable {primitives : PrimitiveTable} {shaderName name : Text} {fields : List Field}
  {d : Declarations}

/-- The size that a row gives as its last entry. -/
def sizeIn? (row : Text) : Option Text :=
  (Text.dropEnd? " \x7d,\n" row).bind fun entries =>
    match (Text.words entries).reverse with
    | value :: equals :: key :: _ =>
        if key = ".size".toList ∧ equals = "=".toList then some value else none
    | _ => none

theorem sizeIn?_row (left : Text) (n : Int) :
    sizeIn? (left ++ ", .size = " ++ Text.decimal n ++ " \x7d,\n") = some (Text.decimal n) := by
  have entries : left ++ ", .size = " ++ Text.decimal n =
      left ++ [','] ++ ' ' :: (".size".toList ++ ' ' :: ("=".toList ++ ' ' :: Text.decimal n)) := by
    simp
  have value : Text.words (Text.decimal n) = [Text.decimal n] :=
    Text.words_of_solid (Text.isSolid_decimal n).solid (Text.isSolid_decimal n).present
  have key : Text.words ".size" = [".size".toList] := by decide +kernel
  have equals : Text.words "=" = ["=".toList] := by decide +kernel
  rw [sizeIn?, Text.dropEnd?_append, Option.bind_some, entries, Text.words_append_blank,
    Text.words_append_blank, Text.words_append_blank, value, key, equals]
  simp

/-- The text is the C struct for the fields; the types of those that have members have the given
size together. -/
def IsStructOf (primitives : PrimitiveTable) (name : Text) (fields : List Field) (bytes : Int)
    (text : Text) : Prop :=
  IsStruct primitives name fields text ∧
    Field.bytes (Primitive.sizeOf primitives) (fields.filter (Field.isStored primitives)) = bytes

/-- The fields that have no members have no bytes. -/
theorem bytes_stored (empty : primitives.ResourcesEmpty)
    (known : ∀ field ∈ fields, field.typeName ∈ primitives) :
    Field.bytes (Primitive.sizeOf primitives) (fields.filter (Field.isStored primitives)) =
      fieldsSize primitives fields := by
  induction fields with
  | nil => rfl
  | cons field rest ih =>
    obtain ⟨here, later⟩ := List.forall_mem_cons.1 known
    obtain ⟨primitive, found⟩ := Option.isSome_iff_exists.1 (Table.isSome_find?_iff.2 here)
    rw [fieldsSize, ← ih later]
    cases stored : field.isStored primitives with
    | true =>
      rw [List.filter_cons_of_pos stored, Field.bytes, Field.bytes, List.map_cons, List.sum_cons]
    | false =>
      have resource : primitive.cType? = none := by
        simpa [Field.isStored, found, Primitive.isResource] using stored
      have nothing : Primitive.sizeOf primitives field.typeName = 0 := by
        rw [Primitive.sizeOf, found]
        exact empty _ _ found resource
      rw [List.filter_cons_of_neg (by simp [stored]), nothing, Int.zero_add]

theorem IsStruct.isStructOf {text : Text} (empty : primitives.ResourcesEmpty)
    (written : IsStruct primitives name fields text) :
    IsStructOf primitives name fields (fieldsSize primitives fields) text :=
  ⟨written, bytes_stored empty written.known⟩

/-- Each range is as large as the fields of its block. -/
theorem forall₂_pack (offset : Int) (blocks : List PushConstant) :
    List.Forall₂ (fun (block : PushConstant) range =>
        sizeIn? (rangeRow range) = some (Text.decimal (fieldsSize primitives block.fields)))
      blocks (PushRange.pack primitives offset blocks) := by
  induction blocks generalizing offset with
  | nil => exact .nil
  | cons block rest ih => exact .cons (sizeIn?_row _ _) (ih _)

/-- In rows and C structs, the sizes are those that the stated declarations give. -/
structure Pieces.SizesDeclared (stated resolved : Declarations) (shaderName : Text)
    (size : Text → Int) (pieces : Pieces) : Prop where
  bindings : ∃ sorted, Block.SortBySlot resolved.uniforms.values sorted ∧
    List.Forall₂ (fun (block : Block) row =>
        ∃ old, stated.uniforms.find? block.name = some old ∧
          sizeIn? row = some (Text.decimal (Field.bytes size old.fields)))
      sorted pieces.bindings
  ranges : List.Forall₂ (fun (block : PushConstant) row =>
      ∃ old, (stated.pushConstants block.stage).find? block.name = some old ∧
        sizeIn? row = some (Text.decimal (Field.bytes size old.fields)))
    (resolved.vertexPushConstants.values ++ resolved.fragmentPushConstants.values) pieces.ranges
  buffers : List.Forall₂ (fun (block : Block) text =>
      ∃ old, stated.uniforms.find? block.name = some old ∧
        IsStructOf Primitive.known (shaderName ++ "_" ++ block.name) block.fields
          (Field.bytes size old.fields) text)
    (resolved.uniforms.values.filter fun block => !block.isResource) pieces.buffers
  pushed : List.Forall₂ (fun (block : PushConstant) text =>
      ∃ old, (stated.pushConstants block.stage).find? block.name = some old ∧
        IsStructOf Primitive.known (shaderName ++ "_" ++ block.name ++ "_push") block.fields
          (Field.bytes size old.fields) text)
    (resolved.vertexPushConstants.values ++ resolved.fragmentPushConstants.values) pieces.pushed

end Header

namespace Interface

open StructTable (DeclaredSizes)

variable {sourceName source shaderName : Text} {order : ChildOrder} {flat : StructTable}
  {stated i : Interface} {size : Text → Int}

/-- Resolving a uniform keeps the size that it is declared with. -/
theorem expand_uniform_size (named : stated.toDeclarations.Named) {block : Block}
    (stored : block ∈ (stated.expand order flat).uniforms.values) :
    ∃ old, stated.uniforms.find? block.name = some old ∧
      fieldsSize Primitive.known block.fields =
        Field.bytes (StructTable.flatSize Primitive.known flat) old.fields := by
  obtain ⟨name, old, found, rfl⟩ := Table.mem_values_map.1 stored
  have own : old.name = name := (named _ _ _ (Declarations.stored?_uniform found)).2
  refine ⟨old, ?_, StructTable.fieldsSize_expandAll old.fields⟩
  rw [← own] at found
  exact found

theorem expand_pushConstant_size (stage : Stage) (named : stated.toDeclarations.Named)
    {block : PushConstant} (stored : block ∈ ((stated.expand order flat).pushConstants stage).values) :
    ∃ old, (stated.pushConstants block.stage).find? block.name = some old ∧
      fieldsSize Primitive.known block.fields =
        Field.bytes (StructTable.flatSize Primitive.known flat) old.fields := by
  have mapped : ∃ name old, (stated.pushConstants stage).find? name = some old ∧
      block = { old with fields := Field.expandAll flat .leaf order old.fields } := by
    cases stage <;> exact Table.mem_values_map.1 stored
  obtain ⟨name, old, found, rfl⟩ := mapped
  obtain ⟨kind, own⟩ := named _ _ _ (Declarations.stored?_pushConstant found)
  obtain rfl : old.stage = stage := DeclarationKind.pushConstant.inj kind
  obtain rfl : old.name = name := own
  exact ⟨old, found, StructTable.fieldsSize_expandAll old.fields⟩

theorem expand_pushConstants_size (named : stated.toDeclarations.Named) :
    ∀ block ∈ (stated.expand order flat).vertexPushConstants.values ++
        (stated.expand order flat).fragmentPushConstants.values,
      ∃ old, (stated.pushConstants block.stage).find? block.name = some old ∧
        fieldsSize Primitive.known block.fields =
          Field.bytes (StructTable.flatSize Primitive.known flat) old.fields := by
  intro block stored
  rcases List.mem_append.1 stored with vertex | fragment
  · exact expand_pushConstant_size .vertex named vertex
  · exact expand_pushConstant_size .fragment named fragment

theorem expand_sizesDeclared {pieces : Header.Pieces} (named : stated.toDeclarations.Named)
    (shown : pieces.Show Primitive.known shaderName (stated.expand order flat).toDeclarations) :
    pieces.SizesDeclared stated.toDeclarations (stated.expand order flat).toDeclarations shaderName
      (StructTable.flatSize Primitive.known flat) := by
  have empty := Primitive.known_resourcesEmpty
  constructor
  · obtain ⟨sorted, sort, rows⟩ := shown.bindings
    refine ⟨sorted, sort, ?_⟩
    rw [rows, List.forall₂_map_right_iff, List.forall₂_same]
    intro block listed
    obtain ⟨old, found, same⟩ := expand_uniform_size named (sort.perm.mem_iff.1 listed)
    refine ⟨old, found, ?_⟩
    rw [← same]
    exact Header.sizeIn?_row _ _
  · rw [shown.ranges, List.forall₂_map_right_iff]
    refine ((List.forall₂_and_left _ _).2
      ⟨expand_pushConstants_size named, Header.forall₂_pack 0 _⟩).imp ?_
    rintro block range ⟨⟨old, found, same⟩, row⟩
    exact ⟨old, found, by rw [row, same]⟩
  · refine ((List.forall₂_and_left _ _).2
      ⟨fun _ kept => expand_uniform_size named (List.mem_filter.1 kept).1, shown.buffers⟩).imp ?_
    rintro block text ⟨⟨old, found, same⟩, written⟩
    exact ⟨old, found, same ▸ written.isStructOf empty⟩
  · refine ((List.forall₂_and_left _ _).2 ⟨expand_pushConstants_size named, shown.pushed⟩).imp ?_
    rintro block text ⟨⟨old, found, same⟩, written⟩
    exact ⟨old, found, same ▸ written.isStructOf empty⟩

/-- The sizes in the part of a shader, those in rows as well as those of members, are the sizes of
the fields as they are declared. -/
theorem ofSource_sizes
    (success : (ofSource ⟨Primitive.known, order⟩ sourceName source).result = .ok i)
    (shaderName : Text) :
    ∃ stated pieces,
      (ofLines sourceName (SourceLines.ofText source)).result = .ok stated ∧
      Header.shaderPart Primitive.known shaderName i.toDeclarations =
        .ok (Header.Pieces.text shaderName pieces) ∧
      (∃! size, DeclaredSizes Primitive.known stated.structs size) ∧
      ∀ size, DeclaredSizes Primitive.known stated.structs size →
        pieces.SizesDeclared stated.toDeclarations i.toDeclarations shaderName size := by
  obtain ⟨stated, read, resolved⟩ := ofSource_eq_ok_iff.1 success
  obtain ⟨texts, written⟩ := resolve_structs resolved shaderName
  obtain ⟨pieces, part, shown⟩ := Header.exists_pieces written
  obtain ⟨flat, flatten, -, rfl⟩ := resolve_ok resolved
  obtain ⟨flattened, grounded⟩ := StructTable.flatten_ok flatten
  have sizes : DeclaredSizes Primitive.known stated.structs
      (StructTable.flatSize Primitive.known flat) := flattened.declaredSizes
  refine ⟨stated, pieces, read, part, ⟨_, sizes, fun _ other => other.unique sizes grounded⟩, ?_⟩
  intro size other
  rw [other.unique sizes grounded]
  exact expand_sizesDeclared (ofLines_ok read).1 shown

/-- A struct with the name of a primitive type, an empty one, and one with both and a sampler. -/
def toneSource : Text :=
  declaring ["struct f32 \x7b x: vec3 \x7d", "struct E \x7b\x7d", "struct L \x7b",
    "t: f32, map: sampler, none: E \x7d", "@group(0) @binding(0)", "lit \x7b t: f32, p: i32 \x7d",
    "@group(0) @binding(1) @push_constant(fs)", "shade \x7b l: L \x7d"]

def tone : Interface where
  structs := ⟨[("f32", [⟨"x", "vec3"⟩]), ("E", []), ("L", [⟨"t.x", "vec3"⟩, ⟨"map", "sampler"⟩])],
    by decide⟩
  uniforms := ⟨[("lit", ⟨"lit", 0, 0, [⟨"t.x", "vec3"⟩, ⟨"p", "i32"⟩]⟩)], by decide⟩
  vertexPushConstants := ∅
  fragmentPushConstants :=
    ⟨[("shade", ⟨⟨"shade", 0, 1, [⟨"map", "sampler"⟩, ⟨"t.x", "vec3"⟩]⟩, .fragment⟩)], by decide⟩
  vertexInputs := []
  fragmentInputs := []

theorem ofSource_sizes_tone :
    (ofSource ⟨Primitive.known, .reversed⟩ "tone" toneSource).result = .ok tone ∧
    ∃ stated pieces,
      (ofLines "tone" (SourceLines.ofText toneSource)).result = .ok stated ∧
      Header.shaderPart Primitive.known "tone" tone.toDeclarations =
        .ok (Header.Pieces.text "tone" pieces) ∧
      (∃! size, DeclaredSizes Primitive.known stated.structs size) ∧
      ∀ size, DeclaredSizes Primitive.known stated.structs size →
        pieces.SizesDeclared stated.toDeclarations tone.toDeclarations "tone" size := by
  have success : (ofSource ⟨Primitive.known, .reversed⟩ "tone" toneSource).result = .ok tone := by
    rw [Primitive.known_eq_listed]
    exact Fallible.eq_ok_of_toOption (by decide +kernel)
  exact ⟨success, ofSource_sizes success "tone"⟩

end Interface
end ShaderInterface
