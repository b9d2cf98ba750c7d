import ShaderInterface.Header
import ShaderInterface.Proofs.Interface.Resolution

set_option autoImplicit false

namespace ShaderInterface

variable {primitives : PrimitiveTable}

namespace Header

theorem memberLine_succeeds_iff {field : Field} :
    (∃ line, memberLine primitives field = .ok line) ↔ field.typeName ∈ primitives := by
  rw [memberLine, ← Table.isSome_find?_iff]
  cases primitives.find? field.typeName <;> simp

theorem struct_succeeds_iff (name : Text) {fields : List Field} :
    (∃ text, struct primitives name fields = .ok text) ↔
      ∀ field ∈ fields, field.typeName ∈ primitives := by
  simp only [← memberLine_succeeds_iff, ← Fallible.mapM_succeeds_iff]
  simp only [struct, Fallible.map_eq_ok_iff]
  constructor
  · rintro ⟨_, members, success, -⟩
    exact ⟨members, success⟩
  · rintro ⟨members, success⟩
    exact ⟨_, members, success, rfl⟩

/-- The structs of a shader are those of its buffers, then those of its push constants. -/
theorem structs_eq_ok_iff {shaderName : Text} {d : Declarations} {texts : List Text} :
    structs primitives shaderName d = .ok texts ↔
      ∃ buffers pushed,
        ((d.uniforms.values.filter fun block => !block.isResource).mapM fun block =>
          struct primitives (shaderName ++ "_" ++ block.name) block.fields) = .ok buffers ∧
        ((d.vertexPushConstants.values ++ d.fragmentPushConstants.values).mapM fun block =>
          struct primitives (shaderName ++ "_" ++ block.name ++ "_push") block.fields) =
            .ok pushed ∧
        buffers ++ pushed = texts := by
  simp only [structs, Fallible.bind_eq_ok_iff]
  constructor
  · rintro ⟨buffers, first, pushed, second, same⟩
    exact ⟨buffers, pushed, first, second, Except.ok.inj same⟩
  · rintro ⟨buffers, pushed, first, second, rfl⟩
    exact ⟨buffers, first, pushed, second, rfl⟩

theorem structs_succeed_iff (shaderName : Text) {d : Declarations} :
    (∃ texts, structs primitives shaderName d = .ok texts) ↔
      (∀ block ∈ d.uniforms.values, block.isResource = false →
        ∀ field ∈ block.fields, field.typeName ∈ primitives) ∧
      ∀ block ∈ d.vertexPushConstants.values ++ d.fragmentPushConstants.values,
        ∀ field ∈ block.fields, field.typeName ∈ primitives := by
  have buffers : (∀ block ∈ d.uniforms.values.filter fun block => !block.isResource,
      ∀ field ∈ block.fields, field.typeName ∈ primitives) ↔
      ∀ block ∈ d.uniforms.values, block.isResource = false →
        ∀ field ∈ block.fields, field.typeName ∈ primitives := by
    simp only [List.mem_filter, Bool.not_eq_true', and_imp]
  rw [← buffers]
  simp only [structs_eq_ok_iff]
  constructor
  · rintro ⟨_, first, second, written, pushed, -⟩
    refine ⟨fun block member => ?_, fun block member => ?_⟩
    · exact (struct_succeeds_iff _).1 (Fallible.mapM_succeeds_iff.1 ⟨first, written⟩ block member)
    · exact (struct_succeeds_iff _).1 (Fallible.mapM_succeeds_iff.1 ⟨second, pushed⟩ block member)
  · rintro ⟨known, pushKnown⟩
    obtain ⟨first, written⟩ := Fallible.mapM_succeeds_iff.2 fun block member =>
      (struct_succeeds_iff (shaderName ++ "_" ++ block.name)).2 (known block member)
    obtain ⟨second, pushed⟩ := Fallible.mapM_succeeds_iff.2 fun block member =>
      (struct_succeeds_iff (shaderName ++ "_" ++ block.name ++ "_push")).2 (pushKnown block member)
    exact ⟨_, first, second, written, pushed, rfl⟩

theorem shaderPart_eq_ok_iff {shaderName text : Text} {d : Declarations} :
    shaderPart primitives shaderName d = .ok text ↔
      ∃ texts, structs primitives shaderName d = .ok texts ∧
        "// " ++ shaderName ++ "\n" ++ texts.flatten ++ bindingTable primitives shaderName d ++
          rangeTable primitives shaderName d ++ "\n" = text :=
  Fallible.map_eq_ok_iff

end Header

namespace Interface

theorem resolve_structs {settings : Settings} {stated i : Interface}
    (resolved : stated.resolve settings = .ok i) (shaderName : Text) :
    ∃ texts, Header.structs settings.primitives shaderName i.toDeclarations = .ok texts := by
  have primitive := resolve_isPrimitive resolved
  refine (Header.structs_succeed_iff shaderName).2
    ⟨fun block stored _ field member => (primitive.uniforms block stored field member).1, ?_⟩
  intro block stored field member
  rcases List.mem_append.1 stored with vertex | fragment
  · exact (primitive.vertexPushConstants block vertex field member).1
  · exact (primitive.fragmentPushConstants block fragment field member).1

end Interface
end ShaderInterface
