import ShaderInterface.Proofs.Header.Completeness
import ShaderInterface.Proofs.Header.Structs
import ShaderInterface.Proofs.Interface.Names

set_option autoImplicit false

namespace ShaderInterface

theorem Text.not_mem_of_isIdentifier {text : Text} {mark : Char}
    (identifier : isIdentifier text = true) (outside : continuesIdentifier mark = false) :
    mark ∉ text := by
  cases text with
  | nil => exact List.not_mem_nil
  | cons first rest =>
    rw [isIdentifier, Bool.and_eq_true, List.all_eq_true] at identifier
    rw [List.mem_cons, not_or]
    refine ⟨?_, fun member => ?_⟩
    · rintro rfl
      rw [continuesIdentifier, identifier.1] at outside
      cases outside
    · rw [identifier.2 mark member] at outside
      cases outside

namespace Header

section Lists

variable {lead : Text} {uniforms vertex fragment : List Text}

/-- Names with a common lead, those of two lists with a suffix as well. -/
theorem nodup_names (uniformsDistinct : uniforms.Nodup) (vertexDistinct : vertex.Nodup)
    (fragmentDistinct : fragment.Nodup) :
    (uniforms.map (lead ++ ·) ++
      (vertex ++ fragment).map fun name => lead ++ name ++ "_push").Nodup ↔
      (∀ name ∈ vertex, name ∉ fragment) ∧
        ∀ name ∈ vertex ++ fragment, name ++ "_push" ∉ uniforms := by
  -- the lead and the suffix cancel, so that names under both are compared as they are
  have injective : Function.Injective fun name : Text => lead ++ name ++ "_push" :=
    fun _ _ same => List.append_cancel_left (List.append_cancel_right same)
  have apart : (∀ a ∈ uniforms.map (lead ++ ·),
      ∀ b ∈ (vertex ++ fragment).map fun name => lead ++ name ++ "_push", a ≠ b) ↔
      ∀ name ∈ vertex ++ fragment, name ++ "_push" ∉ uniforms := by
    simp only [List.forall_mem_map, List.append_assoc]
    exact ⟨fun all name pushed member => all _ member name pushed rfl,
      fun all other member name pushed same =>
        all name pushed (List.append_cancel_left same ▸ member)⟩
  have stages : (vertex ++ fragment).Nodup ↔ ∀ name ∈ vertex, name ∉ fragment := by
    rw [List.nodup_append]
    exact ⟨fun all name member again => all.2.2 name member name again rfl,
      fun all => ⟨vertexDistinct, fragmentDistinct, fun name member other again same =>
        all name member (same ▸ again)⟩⟩
  rw [List.nodup_append, List.nodup_map_iff (List.append_right_injective lead),
    List.nodup_map_iff injective, stages, apart]
  exact and_iff_right uniformsDistinct

end Lists

variable {primitives : PrimitiveTable} {shaderName : Text} {d : Declarations}

def bufferNames (d : Declarations) : List Text :=
  (d.uniforms.values.filter fun block => !block.isResource).map Block.name

theorem not_mem_bufferNames_iff {name : Text}
    (uniforms : ∀ name block, d.uniforms.find? name = some block → block.name = name) :
    name ∉ bufferNames d ↔
      ∀ block, d.uniforms.find? name = some block → block.isResource = true := by
  simp only [bufferNames, List.mem_map, List.mem_filter, Bool.not_eq_true', not_exists, not_and]
  constructor
  · intro none block found
    have stored := Table.mem_values_iff.2 ⟨name, found⟩
    by_contra buffer
    exact none block ⟨stored, by simpa using buffer⟩ (uniforms name block found)
  · rintro all block ⟨stored, buffer⟩ rfl
    obtain ⟨name, found⟩ := Table.mem_values_iff.1 stored
    obtain rfl := uniforms name block found
    rw [all block found] at buffer
    cases buffer

/-- The names of the structs of declarations that stand under their own names. -/
theorem nodup_mirrors
    (uniforms : ∀ name block, d.uniforms.find? name = some block → block.name = name)
    (pushConstants : ∀ stage name block,
      (d.pushConstants stage).find? name = some block → block.name = name) :
    ((mirrors primitives shaderName d).map CStruct.name).Nodup ↔
      (∀ name ∈ d.vertexPushConstants, name ∉ d.fragmentPushConstants) ∧
      ∀ name, name ∈ d.vertexPushConstants ∨ name ∈ d.fragmentPushConstants →
        ∀ block, d.uniforms.find? (name ++ "_push") = some block → block.isResource = true := by
  have vertex : (d.vertexPushConstants.values.map fun block => block.name) =
      d.vertexPushConstants.keys := Table.map_values (pushConstants .vertex)
  have fragment : (d.fragmentPushConstants.values.map fun block => block.name) =
      d.fragmentPushConstants.keys := Table.map_values (pushConstants .fragment)
  have names : (mirrors primitives shaderName d).map CStruct.name =
      (bufferNames d).map ((shaderName ++ "_") ++ ·) ++
      (d.vertexPushConstants.keys ++ d.fragmentPushConstants.keys).map fun name =>
        (shaderName ++ "_") ++ name ++ "_push" := by
    rw [← vertex, ← fragment]
    simp only [mirrors, bufferNames, List.map_append, List.map_map]
    rfl
  have distinct : (bufferNames d).Nodup :=
    (List.filter_sublist.map Block.name).nodup (Table.map_values uniforms ▸ d.uniforms.nodup_keys)
  rw [names, nodup_names distinct d.vertexPushConstants.nodup_keys
    d.fragmentPushConstants.nodup_keys]
  simp only [not_mem_bufferNames_iff uniforms, List.mem_append, Table.mem_iff]

end Header

namespace Interface

variable {order : ChildOrder} {sourceName source shaderName : Text} {i : Interface}

/-- The structs of a shader have distinct names exactly when no push constant is declared in both
stages, and none has a uniform buffer with its name and the suffix beside it. -/
theorem ofSource_struct_names
    (success : (ofSource ⟨Primitive.known, order⟩ sourceName source).result = .ok i)
    (shader : '\n' ∉ shaderName)
    (uniforms : ∀ block ∈ i.uniforms.values, Text.isIdentifier block.name = true)
    (pushConstants : ∀ block ∈ i.vertexPushConstants.values ++ i.fragmentPushConstants.values,
      Text.isIdentifier block.name = true) :
    ∃ text, Header.shaderPart Primitive.known shaderName i.toDeclarations = .ok text ∧
      (((CStruct.ofText text).map CStruct.name).Nodup ↔
        (∀ name ∈ i.vertexPushConstants, name ∉ i.fragmentPushConstants) ∧
        ∀ name, name ∈ i.vertexPushConstants ∨ name ∈ i.fragmentPushConstants →
          ∀ block, i.uniforms.find? (name ++ "_push") = some block → block.isResource = true) := by
  obtain ⟨stated, read, resolved⟩ := ofSource_eq_ok_iff.1 success
  obtain ⟨named, written⟩ := ofLines_ok read
  obtain ⟨text, part⟩ : ∃ text,
      Header.shaderPart Primitive.known shaderName i.toDeclarations = .ok text := by
    obtain ⟨texts, made⟩ := resolve_structs resolved shaderName
    exact ⟨_, Header.shaderPart_eq_ok_iff.2 ⟨texts, made, rfl⟩⟩
  have uniformNames : ∀ name block, i.uniforms.find? name = some block →
      block.name = name ∧ ∀ field ∈ block.fields, field.name.IsSolid :=
    fun _ _ => resolve_uniform_names resolved named written
  have pushNames : ∀ stage name block, (i.pushConstants stage).find? name = some block →
      block.name = name ∧ ∀ field ∈ block.fields, field.name.IsSolid :=
    fun _ _ _ => resolve_pushConstant_names resolved named written
  have outside : Text.continuesIdentifier '\n' = false := by decide +kernel
  have readable : ∀ block ∈ i.uniforms.values, block.IsReadable := by
    intro block member
    obtain ⟨name, found⟩ := Table.mem_values_iff.1 member
    exact ⟨Text.not_mem_of_isIdentifier (uniforms block member) outside,
      (uniformNames name block found).2⟩
  have pushReadable : ∀ block ∈ i.vertexPushConstants.values ++ i.fragmentPushConstants.values,
      block.IsReadable := by
    intro block member
    refine ⟨Text.not_mem_of_isIdentifier (pushConstants block member) outside, ?_⟩
    rcases List.mem_append.1 member with stored | stored
    · obtain ⟨name, found⟩ := Table.mem_values_iff.1 stored
      exact (pushNames .vertex name block found).2
    · obtain ⟨name, found⟩ := Table.mem_values_iff.1 stored
      exact (pushNames .fragment name block found).2
  have declares :=
    Header.shaderPart_declares Primitive.known_onOneLine shader readable pushReadable part
  refine ⟨text, part, ?_⟩
  rw [declares.ofText]
  exact Header.nodup_mirrors (fun name block found => (uniformNames name block found).1)
    fun stage name block found => (pushNames stage name block found).1

/-- A shader with nothing but declarations. -/
def declaring (declarations : List String) : Text :=
  ['\n'].intercalate ((["#Data"] ++ declarations ++
    ["#end", "fn vs_main() \x7b", "fn fs_main() \x7b"]).map String.toList)

/-- A uniform buffer, and a texture with the name of a push constant and the suffix. -/
def shadeSource : Text :=
  declaring ["@group(0) @binding(0) var<uniform> lamp \x7b power: f32 \x7d",
    "@group(0) @binding(1) var shade_push: texture_2d<f32>",
    "@group(0) @binding(2) @push_constant(vs) shade \x7b depth: f32 \x7d",
    "@group(0) @binding(3) @push_constant(fs) tint \x7b colour: vec3 \x7d"]

def shade : Interface where
  structs := ∅
  uniforms := ⟨[("lamp", ⟨"lamp", 0, 0, [⟨"power", "f32"⟩]⟩),
    ("shade_push", ⟨"shade_push", 0, 1, [⟨"shade_push", "texture_2d<f32>"⟩]⟩)], by decide⟩
  vertexPushConstants := ⟨[("shade", ⟨⟨"shade", 0, 2, [⟨"depth", "f32"⟩]⟩, .vertex⟩)], by decide⟩
  fragmentPushConstants :=
    ⟨[("tint", ⟨⟨"tint", 0, 3, [⟨"colour", "vec3"⟩]⟩, .fragment⟩)], by decide⟩
  vertexInputs := []
  fragmentInputs := []

theorem ofSource_shade :
    (ofSource ⟨Primitive.known, .reversed⟩ "shade" shadeSource).result = .ok shade := by
  rw [Primitive.known_eq_listed]
  refine Fallible.eq_ok_of_toOption ?_
  unfold shadeSource declaring
  simp only [List.cons_append, List.nil_append, List.map]
  -- spelled out, the literals are cheap to compute with
  repeat rw [String.toList_ofList]
  decide +kernel

theorem ofSource_struct_names_shade :
    ((ofSource ⟨Primitive.known, .reversed⟩ "shade" shadeSource).result = .ok shade ∧
      '\n' ∉ "shade".toList ∧
      (∀ block ∈ shade.uniforms.values, Text.isIdentifier block.name = true) ∧
      ∀ block ∈ shade.vertexPushConstants.values ++ shade.fragmentPushConstants.values,
        Text.isIdentifier block.name = true) ∧
    ∃ text, Header.shaderPart Primitive.known "shade" shade.toDeclarations = .ok text ∧
      (((CStruct.ofText text).map CStruct.name).Nodup ↔
        (∀ name ∈ shade.vertexPushConstants, name ∉ shade.fragmentPushConstants) ∧
        ∀ name, name ∈ shade.vertexPushConstants ∨ name ∈ shade.fragmentPushConstants →
          ∀ block, shade.uniforms.find? (name ++ "_push") = some block →
            block.isResource = true) := by
  have shader : '\n' ∉ "shade".toList := by decide
  have uniforms : ∀ block ∈ shade.uniforms.values, Text.isIdentifier block.name = true := by
    decide +kernel
  have pushConstants : ∀ block ∈ shade.vertexPushConstants.values ++
      shade.fragmentPushConstants.values, Text.isIdentifier block.name = true := by
    decide +kernel
  exact ⟨⟨ofSource_shade, shader, uniforms, pushConstants⟩,
    ofSource_struct_names ofSource_shade shader uniforms pushConstants⟩

/-- A push constant of the fragment stage, behind another declaration. -/
def twinSource (first : String) : Text :=
  declaring [first, "@group(0) @binding(1) @push_constant(fs) shade \x7b depth: f32 \x7d"]

/-- The part for a shader has two structs of one name, although all blocks are named by
identifiers. -/
def RepeatsStructName (source : Text) : Prop :=
  ∃ i text, (ofSource ⟨Primitive.known, .reversed⟩ "lamp" source).result = .ok i ∧
    (∀ block ∈ i.uniforms.values, Text.isIdentifier block.name = true) ∧
    (∀ block ∈ i.vertexPushConstants.values ++ i.fragmentPushConstants.values,
      Text.isIdentifier block.name = true) ∧
    Header.shaderPart Primitive.known "lamp" i.toDeclarations = .ok text ∧
    ¬((CStruct.ofText text).map CStruct.name).Nodup

theorem repeatsStructName {source : Text} (i : Interface) (name : Text)
    (success : (ofSource ⟨Primitive.listed, .reversed⟩ "lamp" source).result.toOption = some i)
    (uniforms : ∀ block ∈ i.uniforms.values, Text.isIdentifier block.name = true)
    (pushConstants : ∀ block ∈ i.vertexPushConstants.values ++ i.fragmentPushConstants.values,
      Text.isIdentifier block.name = true)
    (names : (Header.shaderPart Primitive.listed "lamp" i.toDeclarations).toOption.map
      (fun text => (CStruct.ofText text).map CStruct.name) = some [name, name]) :
    RepeatsStructName source := by
  rw [← Primitive.known_eq_listed] at success names
  obtain ⟨text, part, shown⟩ := Option.map_eq_some_iff.1 names
  refine ⟨i, text, Fallible.eq_ok_of_toOption success, uniforms, pushConstants,
    Fallible.eq_ok_of_toOption part, ?_⟩
  rw [shown]
  simp

/-- The push constant of the fragment stage beside one of the vertex stage. -/
def twinStages : Interface where
  structs := ∅
  uniforms := ∅
  vertexPushConstants := ⟨[("shade", ⟨⟨"shade", 0, 0, [⟨"depth", "f32"⟩]⟩, .vertex⟩)], by decide⟩
  fragmentPushConstants :=
    ⟨[("shade", ⟨⟨"shade", 0, 1, [⟨"depth", "f32"⟩]⟩, .fragment⟩)], by decide⟩
  vertexInputs := []
  fragmentInputs := []

/-- The push constant of the fragment stage beside a uniform buffer. -/
def twinBuffer : Interface where
  structs := ∅
  uniforms := ⟨[("shade_push", ⟨"shade_push", 0, 0, [⟨"depth", "f32"⟩]⟩)], by decide⟩
  vertexPushConstants := ∅
  fragmentPushConstants :=
    ⟨[("shade", ⟨⟨"shade", 0, 1, [⟨"depth", "f32"⟩]⟩, .fragment⟩)], by decide⟩
  vertexInputs := []
  fragmentInputs := []

/-- A push constant may be declared in both stages, or have a uniform buffer with its name and the
suffix beside it. -/
theorem struct_names_repeat :
    RepeatsStructName
      (twinSource "@group(0) @binding(0) @push_constant(vs) shade \x7b depth: f32 \x7d") ∧
    RepeatsStructName
      (twinSource "@group(0) @binding(0) var<uniform> shade_push \x7b depth: f32 \x7d") := by
  constructor
  · exact repeatsStructName twinStages "lamp_shade_push" (by decide +kernel) (by decide +kernel)
      (by decide +kernel) (by decide +kernel)
  · exact repeatsStructName twinBuffer "lamp_shade_push" (by decide +kernel) (by decide +kernel)
      (by decide +kernel) (by decide +kernel)

end Interface
end ShaderInterface
