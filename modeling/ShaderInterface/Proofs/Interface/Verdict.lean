import ShaderInterface.Proofs.Interface.Resolution
import ShaderInterface.Proofs.Text.Cuts

set_option autoImplicit false

namespace ShaderInterface

/-- Every field with what states it: structs, the push constants of the vertex stage and of the
fragment stage, uniforms, then the inputs of the two entry points. -/
def Interface.statedFields (i : Interface) : List (Text × Field) :=
  let stated (interface : Text) (fields : List Field) := fields.map fun field => (interface, field)
  i.structs.entries.flatMap (fun entry => stated ("struct " ++ entry.1) entry.2) ++
  i.vertexPushConstants.values.flatMap (fun block =>
    stated ("vertex push constant " ++ block.name) block.fields) ++
  i.fragmentPushConstants.values.flatMap (fun block =>
    stated ("fragment push constant " ++ block.name) block.fields) ++
  i.uniforms.values.flatMap (fun block => stated ("uniform " ++ block.name) block.fields) ++
  stated "fn vs_main" i.vertexInputs ++ stated "fn fs_main" i.fragmentInputs

instance (primitives : PrimitiveTable) (structs : StructTable) (field : Field) :
    Decidable (field.IsKnown primitives structs) :=
  inferInstanceAs (Decidable (field.typeName ∈ primitives ∨ field.typeName ∈ structs))

/-- Requires that the type of one field is known. -/
def requireKnown (primitives : PrimitiveTable) (structs : StructTable) (stated : Text × Field) :
    Except ShaderError Unit :=
  if stated.2.IsKnown primitives structs then .ok ()
  else .error (.unresolved stated.1 stated.2.name stated.2.typeName)

variable {primitives : PrimitiveTable} {structs : StructTable}

theorem requireKnown_eq_ok_iff {stated : Text × Field} :
    requireKnown primitives structs stated = .ok () ↔ stated.2.IsKnown primitives structs := by
  rw [requireKnown]
  split <;> simp_all

theorem requireKnown_eq_error_iff {stated : Text × Field} {reason : ShaderError} :
    requireKnown primitives structs stated = .error reason ↔
      ¬stated.2.IsKnown primitives structs ∧
        reason = .unresolved stated.1 stated.2.name stated.2.typeName := by
  rw [requireKnown]
  split <;> simp_all [eq_comm]

/-- The fields of one interface are checked one by one. -/
theorem checkResolved_eq_forM (interface : Text) (fields : List Field) :
    checkResolved primitives structs interface fields =
      (fields.map fun field => (interface, field)).forM (requireKnown primitives structs) := by
  induction fields with
  | nil => rfl
  | cons field rest ih =>
    rw [List.map_cons, List.forM, requireKnown]
    by_cases known : field.IsKnown primitives structs
    · have passed : (!decide (field.typeName ∈ primitives) &&
          !decide (field.typeName ∈ structs)) = false := by
        rcases known with primitive | struct <;> simp [*]
      rw [if_pos known, ← ih]
      simp only [checkResolved, findUnresolved?, List.find?_cons, passed]
      rfl
    · have stopped : (!decide (field.typeName ∈ primitives) &&
          !decide (field.typeName ∈ structs)) = true := by
        simpa [Field.IsKnown, not_or] using known
      rw [if_neg known]
      simp only [checkResolved, findUnresolved?, List.find?_cons, stopped]
      rfl

namespace Interface

theorem statedFields_eq (i : Interface) :
    i.statedFields = i.parts.flatMap fun part => part.2.map fun field => (part.1, field) := by
  simp only [statedFields, parts, List.flatMap_append, List.flatMap_map, List.flatMap_cons,
    List.flatMap_nil, List.append_nil, List.append_assoc]
  rfl

theorem check_eq_forM (i : Interface) :
    i.check primitives = i.statedFields.forM (requireKnown primitives i.structs) := by
  rw [statedFields_eq, check]
  induction i.parts with
  | nil => rfl
  | cons part rest ih =>
    have split (first later : List (Text × Field)) :
        (first ++ later).forM (requireKnown primitives i.structs) =
          first.forM (requireKnown primitives i.structs) >>= fun _ =>
            later.forM (requireKnown primitives i.structs) := List.forM_append
    rw [List.flatMap_cons, split, ← checkResolved_eq_forM, ← ih]
    rfl

/-- The check fails at the first stated field whose type is not known. -/
theorem check_eq_error_iff {i : Interface} {reason : ShaderError} :
    i.check primitives = .error reason ↔ ∃ before stated after,
      i.statedFields = before ++ stated :: after ∧
      (∀ earlier ∈ before, earlier.2.IsKnown primitives i.structs) ∧
      ¬stated.2.IsKnown primitives i.structs ∧
      reason = .unresolved stated.1 stated.2.name stated.2.typeName := by
  rw [check_eq_forM, Fallible.forM_eq_error_iff]
  simp only [requireKnown_eq_ok_iff, requireKnown_eq_error_iff]

theorem check_passes_iff {i : Interface} : i.check primitives = .ok () ↔
    ∀ stated ∈ i.statedFields, stated.2.IsKnown primitives i.structs := by
  rw [check_eq_forM, Fallible.forM_eq_ok_iff]
  simp only [requireKnown_eq_ok_iff]

theorem resolve_of_check_error {settings : Settings} {i : Interface} {reason : ShaderError}
    (failed : i.check settings.primitives = .error reason) :
    i.resolve settings = .error reason := by
  rw [resolve, failed]
  rfl

theorem resolve_of_check_ok {settings : Settings} {i : Interface}
    (passed : i.check settings.primitives = .ok ()) :
    i.resolve settings = (i.structs.flatten settings.order).map (i.expand settings.order) := by
  rw [resolve, passed]
  rfl

/-- Reading goes as far as types when blocks, declarations and both entry points can be read. -/
theorem ofLines_result {sourceName : Text} {lines : List Text} {blocks : List (List Text)}
    {declared : Declarations} {vertex fragment : Signature}
    {vertexInputs fragmentFields : List Field}
    (located : SourceLines.dataBlocks lines = .ok blocks)
    (scanned : (Declarations.ofBlocks blocks).result = .ok declared)
    (vertexSigned : Signature.ofLines Stage.vertex.entry lines = .ok vertex)
    (fragmentSigned : Signature.ofLines Stage.fragment.entry lines = .ok fragment)
    (vertexSplit : Signature.inputs Stage.vertex.entry vertex.parameters = .ok vertexInputs)
    (fragmentSplit :
      Signature.inputs Stage.fragment.entry fragment.parameters = .ok fragmentFields) :
    (ofLines sourceName lines).result = .ok
      { toDeclarations := declared
        vertexInputs
        fragmentInputs :=
          fragmentFields.filter fun field => !Text.includes field.name vertex.returnText } := by
  simp only [ofLines, located, scanned, Except.bind, withInputs, vertexSigned, fragmentSigned,
    vertexSplit, Signature.fragmentInputs, fragmentSplit, Except.map, bind, pure, Except.pure]

variable {settings : Settings} {i : Interface}

/-- What resolving reports as unresolved is the first stated field whose type is not known. -/
theorem resolve_eq_unresolved_iff (settings : Settings) (i : Interface)
    (interface name typeName : Text) :
    i.resolve settings = .error (.unresolved interface name typeName) ↔
      ∃ before field after, i.statedFields = before ++ (interface, field) :: after ∧
        field.name = name ∧ field.typeName = typeName ∧
        (∀ earlier ∈ before, earlier.2.IsKnown settings.primitives i.structs) ∧
        ¬field.IsKnown settings.primitives i.structs := by
  constructor
  · intro failed
    cases checked : i.check settings.primitives with
    | error reason =>
      rw [resolve_of_check_error checked, Except.error.injEq] at failed
      obtain ⟨before, ⟨_, field⟩, after, stated, earlier, unknown, same⟩ :=
        check_eq_error_iff.1 checked
      rw [failed, ShaderError.unresolved.injEq] at same
      obtain ⟨rfl, rfl, rfl⟩ := same
      exact ⟨before, field, after, stated, rfl, rfl, earlier, unknown⟩
    | ok passed =>
      rw [resolve_of_check_ok checked, Fallible.map_eq_error_iff] at failed
      obtain ⟨cycle, same, -⟩ := StructTable.flatten_error failed
      cases same
  · rintro ⟨before, field, after, stated, rfl, rfl, earlier, unknown⟩
    exact resolve_of_check_error
      (check_eq_error_iff.2 ⟨before, _, after, stated, earlier, unknown, rfl⟩)

theorem resolve_succeeds_iff
    (known : ∀ stated ∈ i.statedFields, stated.2.IsKnown settings.primitives i.structs) :
    (∃ resolved, i.resolve settings = .ok resolved) ↔ ¬StructTable.Recursive i.structs := by
  rw [resolve_of_check_ok (check_passes_iff.2 known)]
  constructor
  · rintro ⟨resolved, success⟩
    obtain ⟨flat, flattened, -⟩ := Fallible.map_eq_ok_iff.1 success
    exact StructTable.not_recursive_of_flatten_ok flattened
  · intro acyclic
    obtain ⟨flat, flattened⟩ := StructTable.exists_flatten acyclic settings.order
    exact ⟨_, Fallible.map_eq_ok_iff.2 ⟨flat, flattened, rfl⟩⟩

theorem resolve_eq_recursive_iff
    (known : ∀ stated ∈ i.statedFields, stated.2.IsKnown settings.primitives i.structs) :
    (∃ cycle, i.resolve settings = .error (.recursiveStruct cycle)) ↔
      StructTable.Recursive i.structs := by
  constructor
  · rintro ⟨cycle, failed⟩
    rw [resolve_of_check_ok (check_passes_iff.2 known), Fallible.map_eq_error_iff] at failed
    obtain ⟨_, -, isCycle⟩ := StructTable.flatten_error failed
    exact isCycle.recursive
  · intro recursive
    cases result : i.structs.flatten settings.order with
    | ok flat => exact absurd recursive (StructTable.not_recursive_of_flatten_ok result)
    | error reason =>
      obtain ⟨cycle, rfl, -⟩ := StructTable.flatten_error result
      refine ⟨cycle, ?_⟩
      rw [resolve_of_check_ok (check_passes_iff.2 known), result]
      rfl

/-- What becomes of a source whose blocks, declarations and entry points can be read: the first
field with an unknown type is reported, also beside recursive structs; otherwise recursive structs
are reported, if there are any; otherwise the source has an interface. -/
theorem ofSource_outcome (settings : Settings) (sourceName : Text) {source : Text}
    {blocks : List (List Text)} {declared : Declarations} {vertex fragment : Signature}
    {vertexInputs fragmentFields : List Field}
    (located : SourceLines.dataBlocks (SourceLines.ofText source) = .ok blocks)
    (scanned : (Declarations.ofBlocks blocks).result = .ok declared)
    (vertexSigned :
      Signature.ofLines Stage.vertex.entry (SourceLines.ofText source) = .ok vertex)
    (fragmentSigned :
      Signature.ofLines Stage.fragment.entry (SourceLines.ofText source) = .ok fragment)
    (vertexSplit : Signature.inputs Stage.vertex.entry vertex.parameters = .ok vertexInputs)
    (fragmentSplit :
      Signature.inputs Stage.fragment.entry fragment.parameters = .ok fragmentFields) :
    let stated : Interface :=
      { toDeclarations := declared
        vertexInputs
        fragmentInputs :=
          fragmentFields.filter fun field => !Text.includes field.name vertex.returnText }
    let IsKnown (field : Field) : Prop :=
      field.typeName ∈ settings.primitives ∨ field.typeName ∈ declared.structs
    let result := (ofSource settings sourceName source).result
    (∀ interface name typeName, result = .error (.unresolved interface name typeName) ↔
      ∃ before field after, stated.statedFields = before ++ (interface, field) :: after ∧
        field.name = name ∧ field.typeName = typeName ∧
        (∀ earlier ∈ before, IsKnown earlier.2) ∧ ¬IsKnown field) ∧
    ((∃ interface name typeName, result = .error (.unresolved interface name typeName)) ↔
      ∃ item ∈ stated.statedFields, ¬IsKnown item.2) ∧
    ((∀ item ∈ stated.statedFields, IsKnown item.2) →
      ((∃ cycle, result = .error (.recursiveStruct cycle)) ↔
        StructTable.Recursive declared.structs) ∧
      ((∃ resolved, result = .ok resolved) ↔ ¬StructTable.Recursive declared.structs)) := by
  intro stated IsKnown result
  have resolved : result = stated.resolve settings := by
    have read : (ofLines sourceName (SourceLines.ofText source)).result = .ok stated :=
      ofLines_result located scanned vertexSigned fragmentSigned vertexSplit fragmentSplit
    simp only [result, ofSource, read, Except.bind]
  have first := resolve_eq_unresolved_iff settings stated
  rw [resolved]
  refine ⟨first, ⟨?_, ?_⟩, fun known => ⟨?_, resolve_succeeds_iff known⟩⟩
  · rintro ⟨interface, name, typeName, failed⟩
    obtain ⟨before, field, after, split, -, -, -, unknown⟩ := (first _ _ _).1 failed
    exact ⟨(interface, field), by simp [split], unknown⟩
  · rintro ⟨item, member, unknown⟩
    -- the check stops at some field, since this one does not pass
    cases checked : stated.check settings.primitives with
    | ok passed => exact absurd (check_passes_iff.1 checked item member) unknown
    | error reason =>
      obtain ⟨_, culprit, _, _, _, _, rfl⟩ := check_eq_error_iff.1 checked
      exact ⟨_, _, _, resolve_of_check_error checked⟩
  · exact resolve_eq_recursive_iff known

/-- Two structs that contain each other, and two blocks with unknown types. -/
def entangledLines : List Text :=
  ["struct Host \x7b guest: Guest, size: f32 \x7d", "struct Guest \x7b host: Host \x7d",
    "@group(0) @binding(0) var<uniform> lamp \x7b power: mat9x9 \x7d",
    "@group(0) @binding(1) @push_constant(fragment) tint \x7b", "base: vec3, shade: colour \x7d"].map
    String.toList

def entangledShader : List Text :=
  ["#Data".toList] ++ entangledLines ++
    ["#end", "fn vs_main(p: vec3, q: Missing) -> V \x7b", "fn fs_main(s: Guest) \x7b"].map
      String.toList

def entangledSource : Text := ['\n'].intercalate entangledShader

def entangled : Declarations where
  structs := ⟨[("Host", [⟨"guest", "Guest"⟩, ⟨"size", "f32"⟩]), ("Guest", [⟨"host", "Host"⟩])],
    by decide⟩
  uniforms := ⟨[("lamp", ⟨"lamp", 0, 0, [⟨"power", "mat9x9"⟩]⟩)], by decide⟩
  vertexPushConstants := ∅
  fragmentPushConstants :=
    ⟨[("tint", ⟨⟨"tint", 0, 1, [⟨"base", "vec3"⟩, ⟨"shade", "colour"⟩]⟩, .fragment⟩)],
      by decide⟩

theorem recursive_entangled : StructTable.Recursive entangled.structs := by
  have down : StructTable.Contains entangled.structs "Host" "Guest" :=
    ⟨by decide, [⟨"guest", "Guest"⟩, ⟨"size", "f32"⟩], by decide, ⟨"guest", "Guest"⟩, by decide, rfl⟩
  have back : StructTable.Contains entangled.structs "Guest" "Host" :=
    ⟨by decide, [⟨"host", "Host"⟩], by decide, ⟨"host", "Host"⟩, by decide, rfl⟩
  exact ⟨"Host", .tail (.single down) back⟩

theorem ofText_entangledSource : SourceLines.ofText entangledSource = entangledShader := by
  unfold entangledSource entangledShader entangledLines
  simp only [List.cons_append, List.nil_append, List.map]
  -- spelled out, the literals are cheap to compute with
  repeat rw [String.toList_ofList]
  rw [SourceLines.ofText, Text.dropBlockComments_of_not_mem (by decide +kernel)]
  decide +kernel

theorem ofSource_entangled_outcome :
    SourceLines.dataBlocks (SourceLines.ofText entangledSource) = .ok [entangledLines] ∧
    (Declarations.ofBlocks [entangledLines]).result = .ok entangled ∧
    Signature.ofLines Stage.vertex.entry (SourceLines.ofText entangledSource) =
      .ok ⟨["p:vec3", "q:Missing"], "V"⟩ ∧
    Signature.ofLines Stage.fragment.entry (SourceLines.ofText entangledSource) =
      .ok ⟨["s:Guest"], []⟩ ∧
    StructTable.Recursive entangled.structs ∧
    (ofSource shadowing "lamp" entangledSource).result =
      .error (.unresolved "fragment push constant tint" "shade" "colour") := by
  have located : SourceLines.dataBlocks (SourceLines.ofText entangledSource) =
      .ok [entangledLines] := by
    rw [ofText_entangledSource]
    exact Fallible.eq_ok_of_toOption (by decide +kernel)
  have scanned : (Declarations.ofBlocks [entangledLines]).result = .ok entangled :=
    Fallible.eq_ok_of_toOption (by decide +kernel)
  have vertexSigned : Signature.ofLines Stage.vertex.entry (SourceLines.ofText entangledSource) =
      .ok ⟨["p:vec3", "q:Missing"], "V"⟩ := by
    rw [ofText_entangledSource]
    exact Fallible.eq_ok_of_toOption (by decide +kernel)
  have fragmentSigned :
      Signature.ofLines Stage.fragment.entry (SourceLines.ofText entangledSource) =
        .ok ⟨["s:Guest"], []⟩ := by
    rw [ofText_entangledSource]
    exact Fallible.eq_ok_of_toOption (by decide +kernel)
  have vertexSplit : Signature.inputs Stage.vertex.entry ["p:vec3", "q:Missing"] =
      .ok [⟨"p", "vec3"⟩, ⟨"q", "Missing"⟩] := Fallible.eq_ok_of_toOption (by decide +kernel)
  have fragmentSplit : Signature.inputs Stage.fragment.entry ["s:Guest"] =
      .ok [⟨"s", "Guest"⟩] := Fallible.eq_ok_of_toOption (by decide +kernel)
  obtain ⟨first, -, -⟩ := ofSource_outcome shadowing "lamp" located scanned vertexSigned
    fragmentSigned vertexSplit fragmentSplit
  refine ⟨located, scanned, vertexSigned, fragmentSigned, recursive_entangled, ?_⟩
  refine (first "fragment push constant tint" "shade" "colour").2
    ⟨[("struct Host", ⟨"guest", "Guest"⟩), ("struct Host", ⟨"size", "f32"⟩),
        ("struct Guest", ⟨"host", "Host"⟩), ("fragment push constant tint", ⟨"base", "vec3"⟩)],
      ⟨"shade", "colour"⟩,
      [("uniform lamp", ⟨"power", "mat9x9"⟩), ("fn vs_main", ⟨"p", "vec3"⟩),
        ("fn vs_main", ⟨"q", "Missing"⟩), ("fn fs_main", ⟨"s", "Guest"⟩)],
      by decide +kernel, rfl, rfl, ?_, ?_⟩
  · change ∀ earlier ∈ (_ : List (Text × Field)),
      earlier.2.IsKnown shadowing.primitives entangled.structs
    decide +kernel
  · change ¬Field.IsKnown shadowing.primitives entangled.structs _
    decide +kernel

end Interface
end ShaderInterface
