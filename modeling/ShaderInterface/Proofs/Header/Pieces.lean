import ShaderInterface.Proofs.Header.Completeness
import ShaderInterface.Proofs.Header.Slots

set_option autoImplicit false

/-!
What the part of a shader is put together from. The pieces are told by what they say: each C struct
by the fields it is for and the types that these have in the table, the rows of bindings by the
uniforms in the order of their slots. A resolved interface has these pieces, so that every type that
is looked up for them is there.
-/
namespace ShaderInterface

/-- Whether the type of the field has storage on the host. -/
def Field.isStored (primitives : PrimitiveTable) (field : Field) : Bool :=
  (primitives.find? field.typeName).any fun primitive => !primitive.isResource

namespace Header

variable {primitives : PrimitiveTable} {shaderName name : Text} {fields : List Field}
  {d : Declarations}

/-! ## C structs -/

/-- The row declares the member for a field with storage. -/
def IsMemberRow (primitives : PrimitiveTable) (field : Field) (row : Text) : Prop :=
  ∃ primitive cType, primitives.find? field.typeName = some primitive ∧
    primitive.cType? = some cType ∧ row = "  " ++ cType ++ " " ++ member field.name ++ ";\n"

/-- The text is the C struct with a member for each field that has storage, and none besides. The
types of all fields are in the table. -/
structure IsStruct (primitives : PrimitiveTable) (name : Text) (fields : List Field)
    (text : Text) : Prop where
  known : ∀ field ∈ fields, field.typeName ∈ primitives
  rows : ∃ rows,
    List.Forall₂ (IsMemberRow primitives) (fields.filter (Field.isStored primitives)) rows ∧
      text = "struct " ++ name ++ " \x7b\n" ++ rows.flatten ++ "\x7d;\n\n"

theorem memberLines_rows {lines : List Text}
    (written : fields.mapM (memberLine primitives) = .ok lines) :
    ∃ rows,
      List.Forall₂ (IsMemberRow primitives) (fields.filter (Field.isStored primitives)) rows ∧
        rows.flatten = lines.flatten := by
  have each := Fallible.mapM_ok written
  clear written
  induction each with
  | nil => exact ⟨[], .nil, rfl⟩
  | @cons field line rest _ here _ ih =>
    obtain ⟨rows, shown, joined⟩ := ih
    rw [memberLine] at here
    split at here
    · cases here
    · next primitive known =>
      have stored : field.isStored primitives = primitive.cType?.isSome := by
        rw [Field.isStored, known, Option.any_some, Primitive.isResource, Option.not_isNone]
      cases here
      cases storage : primitive.cType? with
      | none =>
        rw [storage] at stored
        rw [List.filter_cons_of_neg (by simp [stored])]
        exact ⟨rows, shown, joined⟩
      | some cType =>
        rw [storage] at stored
        rw [List.filter_cons_of_pos stored]
        refine ⟨_, .cons ⟨primitive, cType, known, storage, rfl⟩ shown, ?_⟩
        rw [List.flatten_cons, List.flatten_cons, joined]

theorem struct_isStruct {text : Text} (written : struct primitives name fields = .ok text) :
    IsStruct primitives name fields text := by
  have known := (struct_succeeds_iff name).1 ⟨text, written⟩
  rw [struct] at written
  obtain ⟨lines, made, rfl⟩ := Fallible.map_eq_ok_iff.1 written
  obtain ⟨rows, shown, joined⟩ := memberLines_rows made
  refine ⟨known, rows, shown, ?_⟩
  rw [joined]

/-! ## Pieces -/

/-- The pieces that the part of a shader is put together from: the C structs of uniform buffers and
of push constants, the rows of bindings and those of push constant ranges. -/
structure Pieces where
  buffers : List Text
  pushed : List Text
  bindings : List Text
  ranges : List Text

def Pieces.text (shaderName : Text) (pieces : Pieces) : Text :=
  "// " ++ shaderName ++ "\n" ++ (pieces.buffers ++ pieces.pushed).flatten ++
  (countLine (shaderName ++ "_binding_count") pieces.bindings ++
    rowArray "ShaderBindingSpec" (shaderName ++ "_bindings") pieces.bindings) ++
  (countLine (shaderName ++ "_push_constant_range_count") pieces.ranges ++
    rowArray "VkPushConstantRange" (shaderName ++ "_push_constant_ranges") pieces.ranges) ++ "\n"

/-- The pieces are those for declarations. -/
structure Pieces.Show (primitives : PrimitiveTable) (shaderName : Text) (d : Declarations)
    (pieces : Pieces) : Prop where
  buffers : List.Forall₂ (fun (block : Block) text =>
      IsStruct primitives (shaderName ++ "_" ++ block.name) block.fields text)
    (d.uniforms.values.filter fun block => !block.isResource) pieces.buffers
  pushed : List.Forall₂ (fun (block : PushConstant) text =>
      IsStruct primitives (shaderName ++ "_" ++ block.name ++ "_push") block.fields text)
    (d.vertexPushConstants.values ++ d.fragmentPushConstants.values) pieces.pushed
  bindings : ∃ sorted, Block.SortBySlot d.uniforms.values sorted ∧
    pieces.bindings = sorted.map (bindingRow primitives)
  ranges : pieces.ranges = (d.pushRanges primitives).map rangeRow

theorem exists_pieces {texts : List Text} (written : structs primitives shaderName d = .ok texts) :
    ∃ pieces : Pieces, shaderPart primitives shaderName d = .ok (pieces.text shaderName) ∧
      pieces.Show primitives shaderName d := by
  have part := shaderPart_eq_ok_iff.2 ⟨texts, written, rfl⟩
  obtain ⟨buffers, pushed, first, second, rfl⟩ := structs_eq_ok_iff.1 written
  refine ⟨⟨buffers, pushed, _, _⟩, part, ?_, ?_, ⟨_, sortedBindings_sortBySlot d, rfl⟩, rfl⟩
  · exact (Fallible.mapM_ok first).imp fun _ _ => struct_isStruct
  · exact (Fallible.mapM_ok second).imp fun _ _ => struct_isStruct

end Header

namespace Interface

/-- Every interface that a source has can be written into a header under every shader name, with
the table of primitive types that it was resolved with. All look-ups are met there. -/
theorem ofSource_shaderPart {settings : Settings} {sourceName source : Text} {i : Interface}
    (success : (ofSource settings sourceName source).result = .ok i) (shaderName : Text) :
    ∃ pieces : Header.Pieces,
      Header.shaderPart settings.primitives shaderName i.toDeclarations =
        .ok (pieces.text shaderName) ∧
      pieces.Show settings.primitives shaderName i.toDeclarations := by
  obtain ⟨stated, -, resolved⟩ := ofSource_eq_ok_iff.1 success
  obtain ⟨texts, written⟩ := resolve_structs resolved shaderName
  exact Header.exists_pieces written

/-- Primitive types of an engine's own, one of them without storage and one that a struct of
`studioSource` shadows. -/
def engine : Settings where
  primitives := Table.ofList [("half", ⟨"half", 2, some "u16"⟩), ("vec3", ⟨"vec3", 12, some "v3"⟩),
    ("atlas", ⟨"atlas", 0, none⟩), ("f32", ⟨"f32", 4, some "float"⟩)]
  order := .reversed

/-- Structs inside structs, uniforms and a push constant that hold them. -/
def studioSource : Text :=
  ['\n'].intercalate (["#Data", "struct f32 \x7b x: vec3 \x7d",
    "struct Lamp \x7b at: f32, power: half \x7d", "@group(0) @binding(1) var<uniform> scene \x7b",
    "lamp: Lamp, map: atlas \x7d", "@group(0) @binding(2) @push_constant(fs)",
    "tint \x7b shade: Lamp \x7d", "#end", "fn vs_main(p: f32) \x7b",
    "fn fs_main(s: half) \x7b"].map String.toList)

def studio : Interface where
  structs := ⟨[("f32", [⟨"x", "vec3"⟩]), ("Lamp", [⟨"at.x", "vec3"⟩, ⟨"power", "half"⟩])],
    by decide⟩
  uniforms := ⟨[("scene", ⟨"scene", 0, 1, [⟨"lamp.power", "half"⟩, ⟨"lamp.at.x", "vec3"⟩,
    ⟨"map", "atlas"⟩]⟩)], by decide⟩
  vertexPushConstants := ∅
  fragmentPushConstants :=
    ⟨[("tint", ⟨⟨"tint", 0, 2, [⟨"power", "half"⟩, ⟨"at.x", "vec3"⟩]⟩, .fragment⟩)], by decide⟩
  vertexInputs := [⟨"p.x", "vec3"⟩]
  fragmentInputs := [⟨"s", "half"⟩]

theorem ofSource_studio_shaderPart :
    (ofSource engine "studio" studioSource).result = .ok studio ∧
    ∃ pieces : Header.Pieces,
      Header.shaderPart engine.primitives "2d-studio" studio.toDeclarations =
        .ok (pieces.text "2d-studio") ∧
      pieces.Show engine.primitives "2d-studio" studio.toDeclarations := by
  have success : (ofSource engine "studio" studioSource).result = .ok studio :=
    Fallible.eq_ok_of_toOption (by decide +kernel)
  exact ⟨success, ofSource_shaderPart success "2d-studio"⟩

end Interface
end ShaderInterface
