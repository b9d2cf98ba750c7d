import ShaderInterface.Proofs.Declaration.Resources

set_option autoImplicit false

namespace ShaderInterface.Printed

open Text (AllBlank beside)

variable {d : Declarations} {behind : Text}

theorem structHead_append (name : Name) (behind : Text) :
    structHead name ++ behind = "struct".toList ++ ' ' :: (name.text ++ behind) := by
  rw [structHead, Text.beside_of_ne_nil (by decide) name.present]
  simp

theorem structName?_printed (name : Name) (start : behind.head?.any Text.isWord = false) :
    Reading.structName? (structHead name ++ behind) = some name.text := by
  have words : ∀ c ∈ name.text, Text.isWord c = true :=
    fun c member => Text.isWord_of_isNameChar (name.named c member)
  rw [structHead_append]
  exact Reading.structName?_word name.present words start

theorem mentionsStruct_structHead (name : Name) (behind : Text) :
    Reading.mentionsStruct (structHead name ++ behind) = true := by
  rw [structHead_append, Reading.mentionsStruct_iff, Text.runs_append_cons (by decide),
    Text.runs_of_word (List.all_eq_true.1 (by decide))]
  simp

theorem structHead_ne_nil (name : Name) (behind : Text) : structHead name ++ behind ≠ [] := by
  rw [structHead_append]
  simp

/-- The line of a struct is read as one. -/
theorem readLine_structHead (name : Name)
    (part : Text.Part isLineChar (structHead name ++ behind)) :
    (Reading.mk d .idle).readLine (structHead name ++ behind) =
      (Reading.mk d .idle).openStruct (structHead name ++ behind) := by
  have present : ¬structHead name ++ behind = [] := structHead_ne_nil name behind
  rw [readLine_of_part _ part, Reading.readStatement, if_neg present]
  simp only
  rw [Reading.readOpening, if_pos (mentionsStruct_structHead name behind)]

/-- The brace on the line of a struct opens its body. -/
theorem openStruct_body (name : Name) (behind : Text)
    (fresh : d.declares .struct name.text = false) :
    (Reading.mk d .idle).openStruct (structHead name ++ ' ' :: '\x7b' :: behind) =
      (Reading.mk (d.put (.struct name.text [])) (.body .struct name.text)).readBody behind := by
  have start : (' ' :: '\x7b' :: behind).head?.any Text.isWord = false := rfl
  have found := structName?_printed name start
  have brace : structHead name ++ ' ' :: '\x7b' :: behind =
      (structHead name ++ [' ']) ++ '\x7b' :: behind := by simp
  have noBrace : '\x7b' ∉ structHead name ++ [' '] := by
    rw [structHead_append]
    have absent : '\x7b' ∉ name.text := Text.not_mem_of_chars name.named (by decide)
    simp [absent]
  have silent : d.redeclared .struct name.text = [] := Declarations.redeclared_of_fresh fresh
  rw [Reading.openStruct, Text.atWordStart?_of_start (structHead_ne_nil name _) found, brace,
    Text.cutAt?_append_cons noBrace]
  simp only [silent]
  exact Step.andThen_done_left _ _

/-- Without the brace, a struct waits for its body. -/
theorem openStruct_header (name : Name) (fresh : d.declares .struct name.text = false) :
    (Reading.mk d .idle).openStruct (structHead name) =
      .done ⟨d.put (.struct name.text []), .header name.text⟩ := by
  have start : ([] : Text).head?.any Text.isWord = false := rfl
  have found := structName?_printed name start
  have present := structHead_ne_nil name []
  rw [List.append_nil] at found present
  have noBrace : Text.cutAt? '\x7b' (structHead name) = none := by
    have spelled := structHead_append name []
    rw [List.append_nil, List.append_nil] at spelled
    have absent : '\x7b' ∉ name.text := Text.not_mem_of_chars name.named (by decide)
    rw [Text.cutAt?_eq_none_iff, spelled]
    simp [absent]
  have silent : d.redeclared .struct name.text = [] := Declarations.redeclared_of_fresh fresh
  rw [Reading.openStruct, Text.atWordStart?_of_start present found, noBrace]
  simp only [silent]
  rfl

/-- A character of a line that holds no place. -/
def isBodyChar (c : Char) : Bool := isRowChar c || c == '\x7b' || c == '\x7d'

/-- A brace on the next line opens the body of a struct that waits for it. -/
theorem readLine_brace {name : Text} (plain : Plain isBodyChar ('\x7b' :: behind)) :
    (Reading.mk d (.header name)).readLine ('\x7b' :: behind) =
      (Reading.mk d (.body .struct name)).readBody behind := by
  have wide : Plain isLineChar ('\x7b' :: behind) := by
    apply plain.mono
    intro c inBody
    simp only [isBodyChar, Bool.or_eq_true] at inBody
    rcases inBody with (inRow | opening) | closing
    · exact isLineChar_of_isRowChar c inRow
    · simp [isLineChar, opening]
    · simp [isLineChar, closing]
  have noAt : '@' ∉ '\x7b' :: behind := Text.not_mem_of_chars plain.chars (by decide)
  have noPlace : Reading.mentionsPlacement ('\x7b' :: behind) = false := by
    rw [Reading.mentionsPlacement, Bool.and_eq_false_iff]
    left
    exact Text.includes_of_not_mem noAt
  rw [readLine_of_part _ wide.toPart, Reading.readStatement, if_neg (List.cons_ne_nil _ _)]
  simp only [List.head?_cons, if_true]
  rw [Reading.readOpening, if_neg (by simp [Reading.mentionsStruct_eq_false plain.noKeyword]),
    if_neg (by simp [noPlace])]
  rfl

/-- A struct whose brace stands on its line. -/
theorem readLines_structOpened (name : Name) (body : Body)
    (fresh : d.declares .struct name.text = false) :
    (Reading.mk d .idle).readLines (body.lines (beside (structHead name) ['\x7b'])) =
      .done ⟨d.put (.struct name.text body.fields), .idle⟩ := by
  obtain ⟨gap, blank, apart⟩ :=
    closeBefore_beside body.rest (beside (structHead name) ['\x7b']) body.first.text
  have opening : beside (structHead name) ['\x7b'] = structHead name ++ [' ', '\x7b'] :=
    Text.beside_of_ne_nil (Text.beside_ne_nil (by decide)) (by simp)
  have brace : Text.Part isLineChar ['\x7b'] := (Plain.mark (by decide)).toPart
  have row : Text.Part isLineChar body.first.text :=
    (body.first.plain.mono isLineChar_of_isRowChar).toPart
  have line := closeBefore_part body.rest
    (((structHead_part name).beside (by decide) brace).beside (by decide) row)
  have opened := openStruct_body name (gap ++ closeBefore body.rest body.first.text) fresh
  rw [opening, List.append_assoc] at apart
  rw [opening, apart] at line
  rw [Body.lines, Reading.readLines, opening, apart, readLine_structHead name line,
    List.cons_append, List.cons_append, List.nil_append, opened]
  exact readLines_body (.struct name.text []) body blank

/-- A struct whose brace opens the next line. -/
theorem readLines_structBraceBelow (name : Name) (body : Body)
    (fresh : d.declares .struct name.text = false) :
    (Reading.mk d .idle).readLines (structHead name :: body.lines ['\x7b']) =
      .done ⟨d.put (.struct name.text body.fields), .idle⟩ := by
  obtain ⟨gap, blank, apart⟩ := closeBefore_beside body.rest ['\x7b'] body.first.text
  have part : Text.Part isLineChar (structHead name ++ []) := by
    rw [List.append_nil]
    exact structHead_part name
  have header := readLine_structHead (d := d) name part
  have brace : Plain isBodyChar ['\x7b'] := Plain.mark (by decide)
  have row : Plain isBodyChar body.first.text :=
    body.first.plain.mono fun c inRow => by simp [isBodyChar, inRow]
  have line := closeBefore_plain body.rest (by decide) (by decide)
    (brace.beside (by decide) row)
  rw [List.append_nil, openStruct_header name fresh] at header
  rw [apart, List.cons_append, List.nil_append] at line
  rw [Reading.readLines, header, Step.andThen_done_left, Body.lines, Reading.readLines, apart,
    List.cons_append, List.nil_append, readLine_brace line]
  exact readLines_body (.struct name.text []) body blank

/-- A new declaration is read from its lines, whatever its layout. -/
theorem readLines_statement (statement : Statement)
    (fresh : d.declares statement.entry.kind statement.entry.name = false) :
    (Reading.mk d .idle).readLines statement.lines = .done ⟨d.put statement.entry, .idle⟩ := by
  cases statement with
  | struct name braceBelow body =>
    cases braceBelow with
    | false => exact readLines_structOpened name body fresh
    | true => exact readLines_structBraceBelow name body fresh
  | bound resource => exact readLines_resource resource fresh

theorem readLines_statements (statements : List Statement)
    (distinct : TableEntry.Distinct (statements.map Statement.entry))
    (fresh : d.Fresh (statements.map Statement.entry)) :
    (Reading.mk d .idle).readLines (statements.flatMap Statement.lines) =
      .done ⟨(statements.map Statement.entry).foldl Declarations.put d, .idle⟩ := by
  induction statements generalizing d with
  | nil => rfl
  | cons statement rest ih =>
    have first := readLines_statement statement (fresh statement.entry (by simp))
    have onward := ih (List.pairwise_cons.1 distinct).2 (fresh.put distinct)
    rw [List.flatMap_cons, Reading.readLines_append, first, Step.andThen_done_left, onward]
    rfl

/-- The lines as they are read: without line comments, outer blanks and lines that are then
empty. -/
def readable (lines : List Text) : List Text :=
  (lines.map fun line => Text.trim (SourceLines.dropLineComment line)).filter (· ≠ [])

/-- Readable lines one after the other. -/
def readEach (r : Reading) : List Text → Step
  | [] => .done r
  | line :: rest => (r.readStatement line).andThen fun next => readEach next rest

theorem readLines_eq_readEach (r : Reading) (lines : List Text) :
    r.readLines lines = readEach r (readable lines) := by
  induction lines generalizing r with
  | nil => rfl
  | cons line rest ih =>
    rw [Reading.readLines, Reading.readLine, readable, List.map_cons]
    by_cases empty : Text.trim (SourceLines.dropLineComment line) = []
    · rw [List.filter_cons_of_neg (by simp [empty]), Reading.readStatement, if_pos empty,
        Step.andThen_done_left]
      exact ih r
    · rw [List.filter_cons_of_pos (by simp [empty]), readEach]
      congr 1
      funext next
      exact ih next

/-- Nothing but what is readable in the lines makes a difference. -/
theorem readLines_congr {first second : List Text} (same : readable first = readable second)
    (r : Reading) : r.readLines first = r.readLines second := by
  rw [readLines_eq_readEach, readLines_eq_readEach, same]

/-- Printed declarations with distinct names are read back into exactly their tables, in order,
without a warning, and nothing stays open. -/
theorem readAll_printed {statements : List Statement} {lines : List Text}
    (distinct : TableEntry.Distinct (statements.map Statement.entry))
    (printed : readable lines = readable (statements.flatMap Statement.lines)) :
    ∃ declared : Declarations,
      Reading.start.readAll lines = ⟨⟨declared, .idle⟩, [], none⟩ ∧
      declared.structs.entries = (statements.map Statement.entry).flatMap TableEntry.inStructs ∧
      declared.uniforms.entries = (statements.map Statement.entry).flatMap TableEntry.inUniforms ∧
      ∀ stage, (declared.pushConstants stage).entries =
        (statements.map Statement.entry).flatMap (TableEntry.inPushConstants stage) := by
  have fresh := Declarations.Fresh.empty (statements.map Statement.entry)
  obtain ⟨structs, uniforms, constants⟩ := Declarations.foldl_put_entries distinct fresh
  have read := readLines_statements statements distinct fresh
  refine ⟨(statements.map Statement.entry).foldl Declarations.put .empty, ?_, ?_, ?_, ?_⟩
  · rw [Reading.readAll, readLines_congr printed]
    change (Reading.readLines ⟨.empty, .idle⟩ _).andThen _ = _
    rw [read]
    rfl
  · exact structs
  · exact uniforms
  · intro stage
    cases stage <;> exact constants _

def rayName : Name := ⟨"Ray".toList, by decide, by decide, by decide⟩

def originName : Name := ⟨"origin".toList, by decide, by decide, by decide⟩

def vectorType : TypeName := ⟨"vec3<f32>".toList, by decide, by decide, by decide⟩

def arrayType : TypeName := ⟨"array<vec4<f32>,4>".toList, by decide, by decide, by decide⟩

def fragmentTag : Tag .fragment := ⟨⟨"FS".toList, by decide, by decide, by decide⟩, by decide⟩

def originRow : Row := ⟨[⟨originName, vectorType⟩], true⟩

def rayRow : Row := ⟨[⟨originName, vectorType⟩, ⟨rayName, arrayType⟩], false⟩

/-- A struct, a uniform and a push constant of the same name. -/
def sample : List Statement :=
  [.struct rayName true ⟨⟨[], false⟩, [rayRow, ⟨[], false⟩]⟩,
    .bound ⟨⟨0, 12, .uniform, by decide, by decide⟩, true, .addressed uniformName none, rayName,
      .single arrayType, nofun⟩,
    .bound ⟨⟨1, 3, .pushConstant .fragment fragmentTag, by decide, by decide⟩, false, .var, rayName,
      .block ⟨originRow, []⟩, nofun⟩]

def sampleLines : List Text :=
  ["struct Ray", "\x7b", "  origin: vec3<f32>, Ray: array<vec4<f32>,4> // by rows", "\x7d", "",
    "@group(0) @binding(12)", "  // a table", "  var<uniform> Ray: array<vec4<f32>,4>",
    "@group(1) @binding(3) @push_constant(FS) var Ray \x7b origin: vec3<f32>, \x7d"].map
    String.toList

theorem readAll_printed_sample :
    TableEntry.Distinct (sample.map Statement.entry) ∧
      readable sampleLines = readable (sample.flatMap Statement.lines) ∧
      ∃ declared : Declarations,
        Reading.start.readAll sampleLines = ⟨⟨declared, .idle⟩, [], none⟩ ∧
        declared.structs.entries = [(rayName.text, rayRow.fields)] ∧
        declared.uniforms.entries =
          [(rayName.text, ⟨rayName.text, 0, 12, [⟨rayName.text, arrayType.text⟩]⟩)] ∧
        ∀ stage, (declared.pushConstants stage).entries =
          if stage = .fragment then
            [(rayName.text, ⟨⟨rayName.text, 1, 3, originRow.fields⟩, .fragment⟩)]
          else [] := by
  have distinct : TableEntry.Distinct (sample.map Statement.entry) := by decide
  have printed : readable sampleLines = readable (sample.flatMap Statement.lines) := by
    decide +kernel
  obtain ⟨declared, read, structs, uniforms, constants⟩ := readAll_printed distinct printed
  refine ⟨distinct, printed, declared, read, structs, uniforms, ?_⟩
  intro stage
  rw [constants stage]
  cases stage <;> rfl

end ShaderInterface.Printed
