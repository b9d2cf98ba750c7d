import ShaderInterface.Proofs.Header.Descriptors
import ShaderInterface.Proofs.Text.Line

set_option autoImplicit false

namespace ShaderInterface

namespace Text

/-- A word that can be the name or the value of an entry. -/
structure IsAtom (text : Text) : Prop extends text.IsSolid where
  comma : ',' ∉ text
  equals : '=' ∉ text

instance (text : Text) : Decidable text.IsAtom :=
  decidable_of_iff (text ≠ [] ∧ text.all (fun c => !isBlank c) ∧ ',' ∉ text ∧ '=' ∉ text) <| by
    constructor
    · rintro ⟨present, solid, comma, equals⟩
      exact ⟨⟨present, by simpa using solid⟩, comma, equals⟩
    · intro atom
      exact ⟨atom.present, by simpa using atom.solid, atom.comma, atom.equals⟩

theorem isAtom_decimal (n : Int) : (decimal n).IsAtom where
  toIsSolid := isSolid_decimal n
  comma member := absurd (minus_or_isDigit_of_mem_decimal member) (by decide)
  equals member := absurd (minus_or_isDigit_of_mem_decimal member) (by decide)

end Text

namespace Header

variable {primitives : PrimitiveTable} {shaderName name value : Text} {d : Declarations}
  {entries : List (Text × Text)}

def entryIn? (text : Text) : Option (Text × Text) :=
  (Text.cutAt? '=' text).map fun cut => (Text.trim cut.1, Text.trim cut.2)

def entriesIn? (row : Text) : Option (List (Text × Text)) :=
  (Text.dropLead? "\x7b" (Text.trim row)).bind fun opened =>
    (Text.dropEnd? " \x7d," opened).bind fun inside => (inside.splitOn ',').mapM entryIn?

/-- How an entry is written behind a brace or comma. -/
def entryText (name value : Text) : Text := " " ++ name ++ " = " ++ value

theorem entryIn?_entryText (named : name.IsAtom) (valued : value.IsAtom) :
    entryIn? (entryText name value) = some (name, value) := by
  have left : Text.trim (" ".toList ++ name ++ " ".toList) = name :=
    Text.trim_padded (Text.tidy_of_solid named.solid) Text.allBlank_blank Text.allBlank_blank
  have right : Text.trim (" ".toList ++ value ++ []) = value :=
    Text.trim_padded (Text.tidy_of_solid valued.solid) Text.allBlank_blank Text.AllBlank.nil
  have absent : '=' ∉ " ".toList ++ name ++ " ".toList := by simp [named.equals]
  have spelled : entryText name value =
      (" ".toList ++ name ++ " ".toList) ++ '=' :: (" ".toList ++ value ++ []) := by
    simp [entryText]
  rw [entryIn?, spelled, Text.cutAt?_append_cons absent, Option.map_some, left, right]

theorem mapM_eq_self {α : Type} {f : α → Option α} {items : List α}
    (each : ∀ item ∈ items, f item = some item) : items.mapM f = some items := by
  induction items with
  | nil => rfl
  | cons item rest ih =>
    obtain ⟨here, later⟩ := List.forall_mem_cons.1 each
    rw [List.mapM_cons, here, ih later]
    rfl

def rowText (entries : List (Text × Text)) : Text :=
  "  \x7b" ++ [','].intercalate (entries.map fun entry => entryText entry.1 entry.2) ++ " \x7d,\n"

theorem entriesIn?_rowText (present : entries ≠ [])
    (atoms : ∀ entry ∈ entries, entry.1.IsAtom ∧ entry.2.IsAtom) :
    entriesIn? (rowText entries) = some entries := by
  let inside := [','].intercalate (entries.map fun entry => entryText entry.1 entry.2)
  have trimmed : Text.trim (rowText entries) = "\x7b".toList ++ (inside ++ " \x7d,".toList) := by
    have tidy : Text.Tidy ("\x7b".toList ++ (inside ++ " ".toList) ++ "\x7d,".toList) :=
      .enclose ⟨by decide, by decide⟩ ⟨by decide, by decide⟩ (by decide) (by decide) _
    have around : rowText entries =
        "  ".toList ++ ("\x7b".toList ++ (inside ++ " ".toList) ++ "\x7d,".toList) ++ ['\n'] := by
      simp [rowText, inside]
    rw [around, Text.trim_padded tidy (by decide) (by decide)]
    simp
  have apart : inside.splitOn ',' = entries.map fun entry => entryText entry.1 entry.2 := by
    refine List.splitOn_intercalate ',' (fun text member => ?_) (by simpa using present)
    obtain ⟨entry, among, rfl⟩ := List.mem_map.1 member
    obtain ⟨named, valued⟩ := atoms entry among
    simp [entryText, named.comma, valued.comma]
  have read : ∀ entry ∈ entries, entryIn? (entryText entry.1 entry.2) = some entry :=
    fun entry among => entryIn?_entryText (atoms entry among).1 (atoms entry among).2
  rw [entriesIn?, trimmed, Text.dropLead?_append, Option.bind_some, Text.dropEnd?_append,
    Option.bind_some, apart, List.mapM_map]
  exact mapM_eq_self read

def bindingEntries (primitives : PrimitiveTable) (block : Block) : List (Text × Text) :=
  [(".group", Text.decimal block.group), (".binding", Text.decimal block.binding),
    (".type", descriptorFor block.isResource),
    (".size", Text.decimal (fieldsSize primitives block.fields))]

theorem isAtom_descriptorFor (resource : Bool) : (descriptorFor resource).IsAtom := by
  cases resource <;> decide

theorem bindingRow_eq_rowText (block : Block) :
    bindingRow primitives block = rowText (bindingEntries primitives block) := by
  have descriptor : descriptorType block = descriptorFor block.isResource := rfl
  unfold bindingRow rowText bindingEntries entryText
  rw [descriptor, List.map_cons, List.map_cons, List.map_cons, List.map_cons, List.map_nil,
    List.intercalate_cons_cons, List.intercalate_cons_cons, List.intercalate_cons_cons,
    List.intercalate_singleton]
  generalize Text.decimal block.group = group
  generalize Text.decimal block.binding = binding
  generalize descriptorFor block.isResource = descriptor
  generalize Text.decimal (fieldsSize primitives block.fields) = size
  -- spelled out, the literals are cheap to compare
  repeat rw [String.toList_ofList]
  simp only [List.append_assoc, List.cons_append, List.nil_append]

theorem entriesIn?_bindingRow (block : Block) :
    entriesIn? (bindingRow primitives block) = some (bindingEntries primitives block) := by
  have group := Text.isAtom_decimal block.group
  have binding := Text.isAtom_decimal block.binding
  have descriptor := isAtom_descriptorFor block.isResource
  have size := Text.isAtom_decimal (fieldsSize primitives block.fields)
  rw [bindingRow_eq_rowText]
  refine entriesIn?_rowText (List.cons_ne_nil _ _) ?_
  simp only [bindingEntries, List.forall_mem_cons]
  exact ⟨⟨by decide, group⟩, ⟨by decide, binding⟩, ⟨by decide, descriptor⟩, ⟨by decide, size⟩,
    nofun⟩

/-- The row is one line, which shows the uniform. -/
structure IsRowOf (primitives : PrimitiveTable) (block : Block) (row : Text) : Prop where
  line : ∃ line, row = line ++ ['\n'] ∧ '\n' ∉ line
  entries : entriesIn? row = some (bindingEntries primitives block)

theorem bindingRow_isRowOf (block : Block) :
    IsRowOf primitives block (bindingRow primitives block) := by
  have braced : IsTableRow (bindingRow primitives block) := bindingRow_isTableRow block
  obtain ⟨inside, whole, row⟩ := braced
  have line : bindingRow primitives block = "  \x7b" ++ inside ++ " \x7d," ++ ['\n'] := by
    simp [← row]
  exact ⟨⟨_, line, by simp [whole]⟩, entriesIn?_bindingRow block⟩

/-- The pieces of the part of a shader up to its binding table: the C structs of buffers and those
of push constants, the rows of the table, and the array that holds them. -/
structure BindingPieces where
  buffers : List Text
  pushed : List Text
  rows : List Text
  array : Text

/-- The text is made of the pieces, and these are the pieces for declarations. -/
structure BindingPieces.Show (primitives : PrimitiveTable) (shaderName : Text) (d : Declarations)
    (text : Text) (pieces : BindingPieces) : Prop where
  made : text = "// " ++ shaderName ++ "\n" ++ pieces.buffers.flatten ++ pieces.pushed.flatten ++
    "const u32 " ++ shaderName ++ "_binding_count = " ++ Text.decimal pieces.rows.length ++ ";\n" ++
    pieces.array ++ rangeTable primitives shaderName d ++ "\n"
  buffers : List.Forall₂ (fun (block : Block) text =>
      IsStruct primitives (shaderName ++ "_" ++ block.name) block.fields text)
    (d.uniforms.values.filter fun block => !block.isResource) pieces.buffers
  pushed : List.Forall₂ (fun (block : PushConstant) text =>
      IsStruct primitives (shaderName ++ "_" ++ block.name ++ "_push") block.fields text)
    (d.vertexPushConstants.values ++ d.fragmentPushConstants.values) pieces.pushed
  sorted : ∃ blocks, Block.SortBySlot d.uniforms.values blocks ∧
    List.Forall₂ (IsRowOf primitives) blocks pieces.rows
  each : pieces.rows.length = d.uniforms.values.length
  absent_iff : pieces.array = [] ↔ pieces.rows.length = 0
  array : pieces.array ≠ [] → pieces.array = "const ShaderBindingSpec " ++ shaderName ++
    "_bindings[] = \x7b\n" ++ pieces.rows.flatten ++ "\x7d;\n"

theorem rowArray_eq_nil_iff {elementType : Text} {rows : List Text} :
    rowArray elementType name rows = [] ↔ rows = [] := by
  rw [rowArray]
  split
  · next none => simp [none]
  · next some => simp [some]

theorem rowArray_of_ne_nil {rows : List Text} (present : rows ≠ []) :
    rowArray "ShaderBindingSpec" (shaderName ++ "_bindings") rows =
      "const ShaderBindingSpec " ++ shaderName ++ "_bindings[] = \x7b\n" ++ rows.flatten ++
        "\x7d;\n" := by
  have opening : "const ".toList ++ "ShaderBindingSpec".toList ++ " ".toList =
      "const ShaderBindingSpec ".toList := rfl
  have name : "_bindings".toList ++ "[] = \x7b\n".toList = "_bindings[] = \x7b\n".toList := rfl
  rw [rowArray, if_neg present, opening, ← name]
  simp only [List.append_assoc]

theorem Pieces.Show.text_eq {pieces : Pieces} (shown : pieces.Show primitives shaderName d) :
    pieces.text shaderName =
      "// " ++ shaderName ++ "\n" ++ pieces.buffers.flatten ++ pieces.pushed.flatten ++
      "const u32 " ++ shaderName ++ "_binding_count = " ++ Text.decimal pieces.bindings.length ++
      ";\n" ++ rowArray "ShaderBindingSpec" (shaderName ++ "_bindings") pieces.bindings ++
      rangeTable primitives shaderName d ++ "\n" := by
  have ranges : countLine (shaderName ++ "_push_constant_range_count") pieces.ranges ++
      rowArray "VkPushConstantRange" (shaderName ++ "_push_constant_ranges") pieces.ranges =
      rangeTable primitives shaderName d := by
    rw [shown.ranges]
    rfl
  have count : "_binding_count".toList ++ " = ".toList = "_binding_count = ".toList := rfl
  unfold Pieces.text
  rw [ranges]
  generalize rangeTable primitives shaderName d = rest
  generalize rowArray _ _ _ = array
  unfold countLine
  rw [List.flatten_append, ← count]
  simp only [List.append_assoc]

theorem Pieces.Show.bindings_show {pieces : Pieces}
    (shown : pieces.Show primitives shaderName d) :
    BindingPieces.Show primitives shaderName d (pieces.text shaderName)
      ⟨pieces.buffers, pieces.pushed, pieces.bindings,
        rowArray "ShaderBindingSpec" (shaderName ++ "_bindings") pieces.bindings⟩ := by
  obtain ⟨blocks, sort, listed⟩ := shown.bindings
  have rows : List.Forall₂ (IsRowOf primitives) blocks pieces.bindings := by
    rw [listed, List.forall₂_map_right_iff, List.forall₂_same]
    exact fun block _ => bindingRow_isRowOf block
  constructor
  case made => exact shown.text_eq
  case buffers => exact shown.buffers
  case pushed => exact shown.pushed
  case sorted => exact ⟨blocks, sort, rows⟩
  case each => exact rows.length_eq.symm.trans sort.perm.length_eq
  case absent_iff => exact rowArray_eq_nil_iff.trans List.length_eq_zero_iff.symm
  case array => exact fun present => rowArray_of_ne_nil (rowArray_eq_nil_iff.not.1 present)

/-- Where all fields have primitive types, the part of a shader is written. Its binding table has a
row for each uniform, sorted by group and binding without disturbing those that agree in both, and
its C structs are in the order of the uniforms. -/
theorem shaderPart_bindings
    (uniforms : ∀ block ∈ d.uniforms.values, ∀ field ∈ block.fields, field.typeName ∈ primitives)
    (pushConstants : ∀ block ∈ d.vertexPushConstants.values ++ d.fragmentPushConstants.values,
      ∀ field ∈ block.fields, field.typeName ∈ primitives)
    (shaderName : Text) :
    ∃ text pieces, shaderPart primitives shaderName d = .ok text ∧
      BindingPieces.Show primitives shaderName d text pieces := by
  obtain ⟨texts, written⟩ := (structs_succeed_iff shaderName).2
    ⟨fun block stored _ => uniforms block stored, pushConstants⟩
  obtain ⟨pieces, part, shown⟩ := exists_pieces written
  exact ⟨_, _, part, shown.bindings_show⟩

/-- Uniforms out of order, two of them in one slot and the second of these a resource, and a push
constant. -/
def lantern : Declarations where
  structs := ∅
  uniforms := ⟨[("late", ⟨"late", 1, 0, [⟨"tint", "vec3"⟩]⟩),
    ("lit", ⟨"lit", 0, 10, [⟨"at", "vec3"⟩, ⟨"power", "f32"⟩]⟩),
    ("map", ⟨"map", 0, 10, [⟨"map", "sampler"⟩]⟩),
    ("early", ⟨"early", 0, 2, [⟨"count", "u32"⟩]⟩)], by decide⟩
  vertexPushConstants := ∅
  fragmentPushConstants :=
    ⟨[("shade", ⟨⟨"shade", 0, 3, [⟨"level", "f32"⟩]⟩, .fragment⟩)], by decide⟩

theorem shaderPart_bindings_lantern :
    (∀ block ∈ lantern.uniforms.values, ∀ field ∈ block.fields,
      field.typeName ∈ Primitive.known) ∧
    (∀ block ∈ lantern.vertexPushConstants.values ++ lantern.fragmentPushConstants.values,
      ∀ field ∈ block.fields, field.typeName ∈ Primitive.known) ∧
    ∃ text pieces, shaderPart Primitive.known "lantern" lantern = .ok text ∧
      BindingPieces.Show Primitive.known "lantern" lantern text pieces := by
  have uniforms : ∀ block ∈ lantern.uniforms.values, ∀ field ∈ block.fields,
      field.typeName ∈ Primitive.known := by
    rw [Primitive.known_eq_listed]
    decide +kernel
  have pushConstants : ∀ block ∈ lantern.vertexPushConstants.values ++
      lantern.fragmentPushConstants.values, ∀ field ∈ block.fields,
      field.typeName ∈ Primitive.known := by
    rw [Primitive.known_eq_listed]
    decide +kernel
  exact ⟨uniforms, pushConstants, shaderPart_bindings uniforms pushConstants "lantern"⟩

end Header
end ShaderInterface
