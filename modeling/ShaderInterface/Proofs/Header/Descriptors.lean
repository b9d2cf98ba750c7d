import ShaderInterface.Proofs.Header.Sizes

set_option autoImplicit false

/-!
How a header classifies uniforms: as resources, with an image descriptor and no C struct, or as
buffers, with a C struct each. The text shows the class of every uniform, so it is the header for
one classification only. That one looks types up among the known ones, whatever table the shader is
read with; the header is the one for this table exactly where both agree on the uniforms.
-/
namespace ShaderInterface

namespace Block

/-- Whether the type of some field is a sampler or texture of the table. -/
def hasOpaque (primitives : PrimitiveTable) (block : Block) : Bool :=
  block.fields.any fun field => (primitives.find? field.typeName).any Primitive.isResource

theorem isResource_eq_hasOpaque : isResource = hasOpaque Primitive.known := rfl

end Block

namespace Header

variable {primitives : PrimitiveTable} {shaderName text left right : Text} {d : Declarations}
  {resource other : Block → Bool} {pieces : Pieces}

/-- The descriptor of a resource, and that of a buffer. -/
def descriptorFor (resource : Bool) : Text :=
  if resource then "VK_DESCRIPTOR_TYPE_COMBINED_IMAGE_SAMPLER"
  else "VK_DESCRIPTOR_TYPE_UNIFORM_BUFFER"

def rowFront (block : Block) : Text :=
  "  \x7b .group = " ++ Text.decimal block.group ++
  ", .binding = " ++ Text.decimal block.binding ++ ", .type = "

def rowBack (primitives : PrimitiveTable) (block : Block) : Text :=
  ", .size = " ++ (Text.decimal (fieldsSize primitives block.fields) ++ " \x7d,\n")

/-- The row of a uniform of the given class. -/
def rowFor (primitives : PrimitiveTable) (resource : Bool) (block : Block) : Text :=
  rowFront block ++ descriptorFor resource ++ rowBack primitives block

theorem bindingRow_eq_rowFor :
    bindingRow primitives = fun block => rowFor primitives block.isResource block := by
  funext block
  unfold bindingRow rowFor rowBack
  rw [List.append_assoc, List.append_assoc]
  rfl

/-- The pieces are those for declarations whose resources are the uniforms of the class: each
uniform has a row with the descriptor of its class, and the uniforms outside the class have the C
structs. -/
structure Pieces.Classify (primitives : PrimitiveTable) (shaderName : Text) (d : Declarations)
    (resource : Block → Bool) (pieces : Pieces) : Prop where
  buffers : List.Forall₂ (fun (block : Block) text =>
      IsStruct primitives (shaderName ++ "_" ++ block.name) block.fields text)
    (d.uniforms.values.filter fun block => !resource block) pieces.buffers
  pushed : List.Forall₂ (fun (block : PushConstant) text =>
      IsStruct primitives (shaderName ++ "_" ++ block.name ++ "_push") block.fields text)
    (d.vertexPushConstants.values ++ d.fragmentPushConstants.values) pieces.pushed
  bindings : ∃ sorted, Block.SortBySlot d.uniforms.values sorted ∧
    pieces.bindings = sorted.map fun block => rowFor primitives (resource block) block
  ranges : pieces.ranges = (d.pushRanges primitives).map rangeRow

/-- The text is the part of a shader whose resources are the uniforms of the class. -/
def Classifies (primitives : PrimitiveTable) (shaderName : Text) (d : Declarations)
    (resource : Block → Bool) (text : Text) : Prop :=
  ∃ pieces : Pieces, text = pieces.text shaderName ∧
    pieces.Classify primitives shaderName d resource

theorem Pieces.Show.classify (shown : pieces.Show primitives shaderName d) :
    pieces.Classify primitives shaderName d Block.isResource where
  buffers := shown.buffers
  pushed := shown.pushed
  bindings := by
    obtain ⟨sorted, sort, rows⟩ := shown.bindings
    exact ⟨sorted, sort, by rw [rows, bindingRow_eq_rowFor]⟩
  ranges := shown.ranges

theorem Pieces.Classify.congr (classify : pieces.Classify primitives shaderName d resource)
    (agree : ∀ block ∈ d.uniforms.values, resource block = other block) :
    pieces.Classify primitives shaderName d other where
  buffers := by
    rw [← List.filter_congr fun block stored => congrArg not (agree block stored)]
    exact classify.buffers
  pushed := classify.pushed
  bindings := by
    obtain ⟨sorted, sort, rows⟩ := classify.bindings
    refine ⟨sorted, sort, rows.trans (List.map_congr_left fun block listed => ?_)⟩
    exact congrArg (rowFor primitives · block) (agree block (sort.perm.mem_iff.1 listed))
  ranges := classify.ranges

/-! ## Reading the class back -/

/-- The third letter from the end is where the descriptors differ. -/
theorem descriptorFor_ends (resource : Bool) :
    ∃ lead, descriptorFor resource = lead ++ [if resource then 'L' else 'F', 'E', 'R'] := by
  have image : descriptorFor true = "VK_DESCRIPTOR_TYPE_COMBINED_IMAGE_SAMP" ++ ['L', 'E', 'R'] := by
    unfold descriptorFor
    rw [String.toList_ofList, String.toList_ofList]
    rfl
  have buffer : descriptorFor false = "VK_DESCRIPTOR_TYPE_UNIFORM_BUF" ++ ['F', 'E', 'R'] := by
    unfold descriptorFor
    rw [String.toList_ofList, String.toList_ofList]
    rfl
  cases resource with
  | true => exact ⟨_, image⟩
  | false => exact ⟨_, buffer⟩

theorem descriptorFor_cancel {a b : Bool}
    (same : left ++ descriptorFor a = right ++ descriptorFor b) : a = b ∧ left = right := by
  have letters : ∀ a b : Bool, (if a then 'L' else 'F') = (if b then 'L' else 'F') → a = b := by
    decide
  have alike : a = b := by
    obtain ⟨leadA, spelledA⟩ := descriptorFor_ends a
    obtain ⟨leadB, spelledB⟩ := descriptorFor_ends b
    rw [spelledA, spelledB, ← List.append_assoc, ← List.append_assoc] at same
    obtain ⟨letter, -⟩ := List.cons.inj (List.append_inj' same rfl).2
    exact letters a b letter
  exact ⟨alike, List.append_cancel_right (alike ▸ same)⟩

theorem rowFor_cancel {a b : Bool} {block : Block}
    (same : left ++ rowFor primitives a block = right ++ rowFor primitives b block) :
    a = b ∧ left = right := by
  rw [rowFor, rowFor, ← List.append_assoc, ← List.append_assoc, ← List.append_assoc,
    ← List.append_assoc] at same
  obtain ⟨alike, front⟩ := descriptorFor_cancel (List.append_cancel_right same)
  exact ⟨alike, List.append_cancel_right front⟩

/-- From the last row to the first, each shows the class of its uniform. -/
theorem rows_agree {blocks : List Block}
    (same : left ++ (blocks.map fun block => rowFor primitives (resource block) block).flatten =
      right ++ (blocks.map fun block => rowFor primitives (other block) block).flatten) :
    ∀ block ∈ blocks, resource block = other block := by
  induction blocks using List.reverseRecOn with
  | nil => exact nofun
  | append_singleton blocks last ih =>
    simp only [List.map_append, List.flatten_append, List.map_singleton, List.flatten_singleton,
      ← List.append_assoc] at same
    obtain ⟨here, front⟩ := rowFor_cancel same
    exact List.forall_mem_append.2 ⟨ih front, List.forall_mem_singleton.2 here⟩

theorem Classifies.agree (first : Classifies primitives shaderName d resource text)
    (second : Classifies primitives shaderName d other text) :
    ∀ block ∈ d.uniforms.values, resource block = other block := by
  obtain ⟨pieces, rfl, shown⟩ := first
  obtain ⟨others, same, shownOthers⟩ := second
  obtain ⟨sorted, sort, rows⟩ := shown.bindings
  obtain ⟨sortedToo, sortToo, rowsToo⟩ := shownOthers.bindings
  obtain rfl : sorted = sortedToo := sort.unique sortToo
  intro block stored
  have listed := sort.perm.mem_iff.2 stored
  have present : sorted ≠ [] := List.ne_nil_of_mem listed
  unfold Pieces.text at same
  rw [shown.ranges, shownOthers.ranges] at same
  have tables := List.append_cancel_right (List.append_cancel_right same)
  rw [rowArray, rowArray, if_neg (by simpa [rows] using present),
    if_neg (by simpa [rowsToo] using present)] at tables
  simp only [← List.append_assoc] at tables
  have arrays := List.append_cancel_right tables
  rw [rows, rowsToo] at arrays
  exact rows_agree arrays block listed

theorem Classifies.iff_agree (classified : Classifies primitives shaderName d resource text) :
    Classifies primitives shaderName d other text ↔
      ∀ block ∈ d.uniforms.values, resource block = other block := by
  constructor
  · exact classified.agree
  · intro agree
    obtain ⟨pieces, written, classify⟩ := classified
    exact ⟨pieces, written, classify.congr agree⟩

/-- Whatever table a part is written with, its resources are those of the known types. -/
theorem shaderPart_classifies (written : shaderPart primitives shaderName d = .ok text) :
    Classifies primitives shaderName d (Block.hasOpaque Primitive.known) text := by
  obtain ⟨texts, made, -⟩ := shaderPart_eq_ok_iff.1 written
  obtain ⟨pieces, part, shown⟩ := exists_pieces made
  obtain rfl : text = pieces.text shaderName := Except.ok.inj (written.symm.trans part)
  exact ⟨pieces, rfl, Block.isResource_eq_hasOpaque ▸ shown.classify⟩

end Header

namespace Interface

variable {settings : Settings} {sourceName source : Text} {i : Interface}

theorem ofSource_classifies (success : (ofSource settings sourceName source).result = .ok i)
    (shaderName : Text) :
    ∃ text, Header.shaderPart settings.primitives shaderName i.toDeclarations = .ok text ∧
      Header.Classifies settings.primitives shaderName i.toDeclarations
        (Block.hasOpaque Primitive.known) text := by
  obtain ⟨stated, -, resolved⟩ := ofSource_eq_ok_iff.1 success
  obtain ⟨texts, made⟩ := resolve_structs resolved shaderName
  have written := Header.shaderPart_eq_ok_iff.2 ⟨texts, made, rfl⟩
  exact ⟨_, written, Header.shaderPart_classifies written⟩

/-- The part of a shader is written with the known samplers and textures as resources. It is the
part for the table that the shader is read with exactly if, in every uniform, this table and the
known types agree on whether a field is opaque. -/
theorem ofSource_descriptors
    (success : (ofSource settings sourceName source).result = .ok i) (shaderName : Text) :
    ∃ text, Header.shaderPart settings.primitives shaderName i.toDeclarations = .ok text ∧
      Header.Classifies settings.primitives shaderName i.toDeclarations
        (Block.hasOpaque Primitive.known) text ∧
      (Header.Classifies settings.primitives shaderName i.toDeclarations
          (Block.hasOpaque settings.primitives) text ↔
        ∀ block ∈ i.uniforms.values,
          block.hasOpaque Primitive.known = block.hasOpaque settings.primitives) := by
  obtain ⟨text, written, classified⟩ := ofSource_classifies success shaderName
  exact ⟨text, written, classified, classified.iff_agree⟩

/-- A texture that is not among the known types, and a sampler that has storage. -/
def handles : Settings where
  primitives := Table.ofList [("atlas", ⟨"atlas", 0, none⟩), ("sampler", ⟨"sampler", 4, some "u32"⟩)]
  order := .reversed

def handleSource : Text :=
  declaring ["@group(0) @binding(0) var<uniform> map: atlas",
    "@group(0) @binding(1) var<uniform> lit \x7b handle: sampler \x7d"]

def handled : Interface where
  structs := ∅
  uniforms := ⟨[("map", ⟨"map", 0, 0, [⟨"map", "atlas"⟩]⟩),
    ("lit", ⟨"lit", 0, 1, [⟨"handle", "sampler"⟩]⟩)], by decide⟩
  vertexPushConstants := ∅
  fragmentPushConstants := ∅
  vertexInputs := []
  fragmentInputs := []

theorem ofSource_handles : (ofSource handles "lamp" handleSource).result = .ok handled := by
  refine Fallible.eq_ok_of_toOption ?_
  unfold handleSource declaring
  simp only [List.cons_append, List.nil_append, List.map]
  repeat rw [String.toList_ofList]
  decide +kernel

theorem ofSource_descriptors_handles :
    (ofSource handles "lamp" handleSource).result = .ok handled ∧
    ∃ text, Header.shaderPart handles.primitives "lamp" handled.toDeclarations = .ok text ∧
      Header.Classifies handles.primitives "lamp" handled.toDeclarations
        (Block.hasOpaque Primitive.known) text ∧
      (Header.Classifies handles.primitives "lamp" handled.toDeclarations
          (Block.hasOpaque handles.primitives) text ↔
        ∀ block ∈ handled.uniforms.values,
          block.hasOpaque Primitive.known = block.hasOpaque handles.primitives) :=
  ⟨ofSource_handles, ofSource_descriptors ofSource_handles "lamp"⟩

/-- A texture that only the engine has becomes a buffer, and a sampler to which the engine gives
storage becomes a resource. -/
theorem descriptors_mistaken :
    (ofSource handles "lamp" handleSource).result = .ok handled ∧
    handled.uniforms.values.map (Block.hasOpaque handles.primitives) = [true, false] ∧
    handled.uniforms.values.map Block.isResource = [false, true] ∧
    ∃ text, Header.shaderPart handles.primitives "lamp" handled.toDeclarations = .ok text ∧
      ¬Header.Classifies handles.primitives "lamp" handled.toDeclarations
        (Block.hasOpaque handles.primitives) text := by
  have own : handled.uniforms.values.map (Block.hasOpaque handles.primitives) = [true, false] := by
    decide
  have known : handled.uniforms.values.map (Block.hasOpaque Primitive.known) = [false, true] := by
    rw [Primitive.known_eq_listed]
    decide +kernel
  obtain ⟨text, written, classified⟩ := ofSource_classifies ofSource_handles "lamp"
  refine ⟨ofSource_handles, own, known, text, written, fun right => ?_⟩
  have agree := classified.agree right
  rw [List.map_congr_left agree, own] at known
  cases known

end Interface
end ShaderInterface
