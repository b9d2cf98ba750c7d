import ShaderInterface.Proofs.Declaration.Parts
import ShaderInterface.Proofs.Declaration.Resources

set_option autoImplicit false

/-!
The attributes of a uniform in either order. The numbers of a place are read by their position: the
one that stands first is the group, whatever its attribute is called. A uniform gets the numbers
under their names when the group is written first, or when they are the same.
-/
namespace ShaderInterface

namespace Annotated

inductive Label where
  | group
  | binding

/-- A number that can be read, under its label. -/
structure Attribute where
  label : Label
  value : Nat
  readable : (Text.decimal value).length ≤ Text.numeralLimit

/-- What is declared: a variable of a type, or a block. The words of the type and the text in the
block are any. -/
inductive Subject where
  | single (type : Text) (present : type ≠ []) (balanced : Text.endsType 0 type = true)
  | block (inside : Text) (noComment : '/' ∉ inside)

end Annotated

/-- A uniform on one line behind its group and its binding, in either order. -/
structure Annotated where
  group : Nat
  binding : Nat
  groupReadable : (Text.decimal group).length ≤ Text.numeralLimit
  bindingReadable : (Text.decimal binding).length ≤ Text.numeralLimit
  groupFirst : Bool
  between : Text
  blankBetween : Text.AllBlank between
  behind : Text
  blankBehind : Text.AllBlank behind
  name : Printed.Name
  subject : Annotated.Subject

namespace Annotated

open Text (AllBlank)
open Printed (Plain)

def Label.text : Label → Text
  | group => "@group("
  | binding => "@binding("

def Attribute.text (a : Attribute) : Text := a.label.text ++ (Text.decimal a.value ++ [')'])

def first (line : Annotated) : Attribute :=
  if line.groupFirst then ⟨.group, line.group, line.groupReadable⟩
  else ⟨.binding, line.binding, line.bindingReadable⟩

def second (line : Annotated) : Attribute :=
  if line.groupFirst then ⟨.binding, line.binding, line.bindingReadable⟩
  else ⟨.group, line.group, line.groupReadable⟩

def Subject.text : Subject → Text
  | single type _ _ => ':' :: ' ' :: type
  | block inside _ => ' ' :: '\x7b' :: (inside ++ ['\x7d'])

def text (line : Annotated) : Text :=
  line.first.text ++ (line.between ++ (line.second.text ++
    (line.behind ++ ("var<uniform> ".toList ++ (line.name.text ++ line.subject.text)))))

/-- A word of the type or in the block is the keyword of a struct. -/
def Subject.HasKeyword : Subject → Prop
  | single type _ _ => "struct".toList ∈ Text.runs type
  | block inside _ => "struct".toList ∈ Text.runs inside

variable {tail gap : Text}

/-! ## Attributes -/

theorem Label.plain (label : Label) : Plain Printed.isLineChar label.text := by
  cases label with
  | group => exact Plain.literal (by decide)
  | binding => exact Plain.literal (by decide)

theorem Attribute.plain (a : Attribute) : Plain Printed.isLineChar a.text := by
  refine Plain.enclosed a.label.plain ?_ (Printed.decimal_plain a.value) (by decide)
  cases a.label <;> decide

theorem Attribute.number_eq (line : Text) (a : Attribute) (blank : AllBlank gap) (tail : Text) :
    Placement.number line (gap ++ (a.text ++ tail)) = .ok (a.value, tail) := by
  obtain ⟨lead, noParenthesis, spelled⟩ : ∃ lead, '(' ∉ lead ∧
      a.text ++ tail = lead ++ '(' :: (Text.decimal a.value ++ ')' :: tail) := by
    rw [Attribute.text, List.append_assoc, List.append_assoc]
    cases a.label with
    | group => exact ⟨"@group".toList, by decide, rfl⟩
    | binding => exact ⟨"@binding".toList, by decide, rfl⟩
  have absent : '(' ∉ gap ++ lead := by
    rw [List.mem_append, not_or]
    exact ⟨blank.not_mem (by decide), noParenthesis⟩
  rw [spelled, ← List.append_assoc]
  exact Printed.number_enclosed line absent a.readable tail

/-- Two attributes are read as group and binding in the order they stand in. -/
theorem ofLine_attributes (first second : Attribute) (blank : AllBlank gap)
    (noAt : (tail.dropWhile Text.isBlank).head? ≠ some '@') :
    Placement.ofLine (first.text ++ (gap ++ (second.text ++ tail))) =
      .ok (⟨first.value, second.value, none⟩, tail) := by
  have group (line : Text) := first.number_eq line AllBlank.nil (gap ++ (second.text ++ tail))
  have binding (line : Text) := second.number_eq line blank tail
  have tag (line : Text) : Placement.tag line tail = .ok (none, tail) := by
    rw [Placement.tag, Printed.openAttribute?_eq_none noAt]
  simp only [List.nil_append] at group
  simp only [Placement.ofLine, group, binding, tag, bind, Except.bind]
  rfl

variable (line : Annotated)

theorem mentionsPlacement_text : Reading.mentionsPlacement line.text = true := by
  have inFirst (a b : Attribute) (gap tail : Text) :
      Text.includes a.label.text (a.text ++ (gap ++ (b.text ++ tail))) = true := by
    have found : Text.includes a.label.text ([] ++ a.label.text ++
        ((Text.decimal a.value ++ [')']) ++ (gap ++ (b.text ++ tail)))) = true :=
      Text.includes_append [] _
    simpa [Attribute.text] using found
  have inSecond (a b : Attribute) (gap tail : Text) :
      Text.includes b.label.text (a.text ++ (gap ++ (b.text ++ tail))) = true := by
    have found : Text.includes b.label.text (a.text ++ gap ++ b.label.text ++
        ((Text.decimal b.value ++ [')']) ++ tail)) = true :=
      Text.includes_append (a.text ++ gap) _
    simpa [Attribute.text] using found
  rw [Reading.mentionsPlacement, Bool.and_eq_true, text, first, second]
  split
  · exact ⟨inFirst ⟨.group, _, line.groupReadable⟩ _ _ _,
      inSecond _ ⟨.binding, _, line.bindingReadable⟩ _ _⟩
  · exact ⟨inSecond _ ⟨.group, _, line.groupReadable⟩ _ _,
      inFirst ⟨.binding, _, line.bindingReadable⟩ _ _ _⟩

/-! ## The characters of the line -/

theorem not_mem_runs_of_allBlank {word : Text} (blank : AllBlank gap) (present : word ≠ []) :
    word ∉ Text.runs gap := by
  intro member
  obtain ⟨c, rest, rfl⟩ := List.exists_cons_of_ne_nil present
  obtain ⟨inside, kept⟩ := Text.mem_of_mem_splitOnP member c (by simp)
  rw [Text.isWord_of_isBlank (blank c inside)] at kept
  cases kept

theorem getLast?_of_allBlank (blank : AllBlank gap) : gap.getLast?.any Text.isWord = false := by
  cases ending : gap.getLast? with
  | none => rfl
  | some c => exact Text.isWord_of_isBlank (blank c (List.mem_of_getLast? ending))

theorem Attribute.getLast?_text (a : Attribute) : a.text.getLast?.any Text.isWord = false := by
  rw [text, ← List.append_assoc, List.getLast?_concat]
  decide

theorem Subject.keyword_text_iff (subject : Subject) {name : Text}
    (noKeyword : "struct".toList ∉ Text.runs name) :
    "struct".toList ∈ Text.runs (name ++ subject.text) ↔ subject.HasKeyword := by
  cases subject with
  | single type present balanced =>
    rw [text, Text.runs_append_cons (by decide), Text.runs_cons_other (by decide),
      List.mem_append, or_iff_right noKeyword, List.mem_cons, or_iff_right (by decide)]
    rfl
  | block inside noComment =>
    rw [text, Text.runs_append_cons (by decide), Text.runs_cons_other (by decide),
      Text.runs_append_cons (by decide), List.mem_append, or_iff_right noKeyword, List.mem_cons,
      or_iff_right (by decide), List.mem_append, or_iff_left (by decide)]
    rfl

/-- Only what is declared can bring the keyword of a struct into the line. -/
theorem mentionsStruct_text :
    Reading.mentionsStruct line.text = true ↔ line.subject.HasKeyword := by
  have blanks {gap : Text} (blank : AllBlank gap) : "struct".toList ∉ Text.runs gap :=
    not_mem_runs_of_allBlank blank (by decide)
  have name : "struct".toList ∉ Text.runs line.name.text := line.name.plain.noKeyword
  rw [Reading.mentionsStruct_iff, text,
    Text.mem_runs_append_iff line.first.plain.noKeyword line.first.getLast?_text,
    Text.mem_runs_append_iff (blanks line.blankBetween) (getLast?_of_allBlank line.blankBetween),
    Text.mem_runs_append_iff line.second.plain.noKeyword line.second.getLast?_text,
    Text.mem_runs_append_iff (blanks line.blankBehind) (getLast?_of_allBlank line.blankBehind),
    Text.mem_runs_append_iff (by decide) (by decide), line.subject.keyword_text_iff name]

theorem Subject.noComment_text (subject : Subject) : '/' ∉ subject.text := by
  cases subject with
  | single type present balanced =>
    have absent : '/' ∉ type := by
      intro member
      exact absurd (Text.isTypeChar_of_endsType balanced '/' member) (by decide)
    simpa [text] using absent
  | block inside noComment => simpa [text] using noComment

theorem noComment_text : '/' ∉ line.text := by
  have marked (a : Attribute) : '/' ∉ a.text := Text.not_mem_of_chars a.plain.chars (by decide)
  have name : '/' ∉ line.name.text := Text.not_mem_of_chars line.name.named (by decide)
  simp only [text, List.mem_append, not_or]
  exact ⟨marked _, line.blankBetween.not_mem (by decide), marked _,
    line.blankBehind.not_mem (by decide), by decide, name, line.subject.noComment_text⟩

theorem Subject.getLast?_text (subject : Subject) :
    subject.text ≠ [] ∧ subject.text.getLast?.any Text.isBlank = false := by
  cases subject with
  | single type present balanced =>
    refine ⟨List.cons_ne_nil _ _, ?_⟩
    rw [text, List.getLast?_cons_cons, List.getLast?_cons_of_ne_nil present]
    exact (Text.tidy_of_solid (Printed.solid_of_endsType balanced)).last
  | block inside noComment =>
    refine ⟨List.cons_ne_nil _ _, ?_⟩
    rw [text, ← List.cons_append, ← List.cons_append, List.getLast?_concat]
    decide

theorem tidy_text : Text.Tidy line.text := by
  obtain ⟨present, last⟩ := line.subject.getLast?_text
  refine ⟨?_, ?_⟩
  · have start : line.first.text.head? = some '@' := by
      rw [Attribute.text]
      cases line.first.label <;> rfl
    rw [text, List.head?_append, start]
    rfl
  · rw [text]
    simp only [← List.append_assoc]
    rw [List.getLast?_append_of_ne_nil _ present]
    exact last

/-- The line is read as one that opens something. -/
theorem readLine_text (d : Declarations) :
    (Reading.mk d .idle).readLine line.text = (Reading.mk d .idle).readOpening line.text := by
  have present : ¬line.text = [] := by
    rw [text]
    exact List.append_ne_nil_of_left_ne_nil (by simp [Attribute.text]) _
  rw [Printed.readLine_of_tidy _ line.noComment_text line.tidy_text, Reading.readStatement,
    if_neg present]

/-! ## What is recorded -/

/-- A line with the keyword of a struct leaves the uniforms as they are. -/
theorem stored?_openStruct (d : Declarations) (focus : Focus) (text name : Text) :
    ((Reading.mk d focus).openStruct text).reading.declared.stored? .uniform name =
      d.stored? .uniform name := by
  have kept (key : Text) :
      (d.addStruct key []).stored? .uniform name = d.stored? .uniform name := by
    have other : DeclarationKind.uniform ≠ (TableEntry.struct key []).kind := nofun
    exact (Declarations.put_of_kind_ne other).2 name
  rw [Reading.openStruct]
  split
  · rfl
  · next key found =>
    split
    · exact kept key
    · next head body cut =>
      have focused : (Focus.body .struct key).owner? =
          some ((TableEntry.struct key []).kind, (TableEntry.struct key []).name) := rfl
      have owned : (Reading.mk (d.addStruct key []) (.body .struct key)).owner =
          .ok (.struct, key) := Printed.owner_put focused
      simp only [Step.andThen]
      rw [Reading.readBody_of_owner owned, Declarations.stored?_addFields, if_neg (by simp)]
      exact kept key

def place (line : Annotated) : Printed.Place :=
  ⟨line.first.value, line.second.value, .uniform, line.first.readable, line.second.readable⟩

/-- The line as a resource of its place, up to where its type or its body starts. -/
def resource (line : Annotated) (shape : Printed.Shape) : Printed.Resource :=
  ⟨line.place, false, .addressed Printed.uniformName none, line.name, shape, nofun⟩

theorem beside_variable {behind : Text} (present : behind ≠ []) :
    Text.beside "var<uniform>".toList behind = "var<uniform> ".toList ++ behind :=
  Text.beside_of_ne_nil (by decide) present

theorem head_single (type : Printed.TypeName) :
    (line.resource (.single type)).head =
      "var<uniform> ".toList ++ (line.name.text ++ ':' :: ' ' :: type.text) := by
  refine (congrArg _ (Printed.Member.text_eq ⟨line.name, type⟩)).trans ?_
  exact beside_variable (by simp)

theorem head_block (body : Printed.Body) :
    (line.resource (.block body)).head =
      "var<uniform> ".toList ++ (line.name.text ++ [' ', '\x7b']) := by
  refine (congrArg _ (Text.beside_of_ne_nil line.name.present (by simp))).trans ?_
  exact beside_variable (by simp)

/-- A line without the keyword is read as what stands behind its attributes. -/
theorem readLine_resource (noKeyword : ¬line.subject.HasKeyword) {shape : Printed.Shape}
    {behind : Text}
    (spelled : "var<uniform> ".toList ++ (line.name.text ++ line.subject.text) =
      (line.resource shape).head ++ behind) (d : Declarations) :
    (Reading.mk d .idle).readLine line.text =
      (Reading.mk d .idle).declarePlaced (line.behind ++ ((line.resource shape).head ++ behind))
        line.place.placement := by
  have noAt := (line.resource shape).head_noAt line.blankBehind behind
  have read := ofLine_attributes line.first line.second line.blankBetween noAt
  rw [readLine_text, Reading.readOpening, if_neg (mt line.mentionsStruct_text.1 noKeyword),
    if_pos line.mentionsPlacement_text, Reading.openPlacement, text, spelled, read]
  simp only
  rw [if_neg ((line.resource shape).trim_head_ne_nil _ _)]
  rfl

/-- A uniform of a type is declared with a field of its own name. -/
theorem readLine_single {type : Text} {present : type ≠ []}
    {balanced : Text.endsType 0 type = true}
    (declared : line.subject = .single type present balanced)
    (noKeyword : ¬line.subject.HasKeyword) :
    Reading.start.readLine line.text =
      .done ⟨.put .empty (line.place.entry line.name.text [⟨line.name.text, type⟩]), .idle⟩ := by
  have wordless : "struct".toList ∉ Text.runs type := by
    rw [declared] at noKeyword
    exact noKeyword
  let shape : Printed.Shape := .single ⟨type, present, balanced, wordless⟩
  have spelled : "var<uniform> ".toList ++ (line.name.text ++ line.subject.text) =
      (line.resource shape).head ++ [] := by
    rw [List.append_nil, line.head_single, declared]
    rfl
  refine (line.readLine_resource noKeyword spelled .empty).trans ?_
  rw [List.append_nil]
  exact Printed.declarePlaced_single (line.resource shape) rfl rfl line.blankBehind

/-- A block is declared, and its body is read. -/
theorem readLine_block {inside : Text} {noComment : '/' ∉ inside}
    (declared : line.subject = .block inside noComment) (noKeyword : ¬line.subject.HasKeyword) :
    Reading.start.readLine line.text =
      (Reading.mk (.put .empty (line.place.entry line.name.text []))
        (.body .uniform line.name.text)).readBody (inside ++ ['\x7d']) := by
  let shape : Printed.Shape := .block ⟨⟨[], false⟩, []⟩
  have spelled : "var<uniform> ".toList ++ (line.name.text ++ line.subject.text) =
      (line.resource shape).head ++ (inside ++ ['\x7d']) := by
    rw [line.head_block, declared, Subject.text, List.append_assoc, List.append_assoc]
    rfl
  refine (line.readLine_resource noKeyword spelled .empty).trans ?_
  exact Printed.declarePlaced_block (line.resource shape) rfl rfl line.blankBehind _

/-- A line without the keyword records its uniform under the place of the line. -/
theorem readLine_recorded (noKeyword : ¬line.subject.HasKeyword) :
    ∃ fields, (Reading.start.readLine line.text).error? = none ∧
      (Reading.start.readLine line.text).reading.declared.stored? .uniform line.name.text =
        some (line.place.entry line.name.text fields) := by
  have stored (fields : List Field) :
      (Declarations.put .empty (line.place.entry line.name.text fields)).stored? .uniform
        line.name.text = some (line.place.entry line.name.text fields) :=
    Declarations.stored?_put_self
  cases declared : line.subject with
  | single type present balanced =>
    rw [line.readLine_single declared noKeyword]
    exact ⟨_, rfl, stored _⟩
  | block inside noComment =>
    have owned : (Reading.mk (.put .empty (line.place.entry line.name.text []))
        (.body .uniform line.name.text)).owner = .ok (.uniform, line.name.text) :=
      Printed.owner_put rfl
    rw [line.readLine_block declared noKeyword, Reading.readBody_of_owner owned]
    refine ⟨Reading.statedFields (Reading.bodyParts (inside ++ ['\x7d'])), rfl, ?_⟩
    rw [Declarations.stored?_addFields, if_pos ⟨rfl, rfl⟩, stored, Option.map_some,
      Printed.Place.addFields_entry, List.nil_append]

/-- A line with the keyword is read as a struct, which records no uniform. -/
theorem readLine_keyword (keyword : line.subject.HasKeyword) (name : Text) :
    (Reading.start.readLine line.text).reading.declared.uniforms.find? name = none := by
  have opened : Reading.start.readLine line.text = Reading.start.openStruct line.text := by
    refine (line.readLine_text .empty).trans ?_
    rw [Reading.readOpening, if_pos (line.mentionsStruct_text.2 keyword)]
    rfl
  rw [opened]
  exact Option.map_eq_none_iff.1 (stored?_openStruct .empty .idle line.text name)

/-- The numbers stand in the order of their names, or are the same. -/
theorem values_eq_iff : line.first.value = line.group ∧ line.second.value = line.binding ↔
    line.groupFirst = true ∨ line.group = line.binding := by
  rw [first, second]
  split
  · next order => simp [order]
  · next order => simp [order, eq_comm]

/-- The uniform of a line gets the number that is written first as its group and the other one as
its binding, unless a word of the line is the keyword of a struct, which records no uniform. These
are the numbers under their names when the group is written first, or when they are the same. -/
theorem readLine_annotated (line : Annotated) :
    let outcome := Reading.start.readLine line.text
    let recorded := outcome.reading.declared.uniforms.find? line.name.text
    (line.subject.HasKeyword → recorded = none) ∧
      (¬line.subject.HasKeyword → outcome.error? = none ∧
        ∃ block, recorded = some block ∧
          block.group = line.first.value ∧ block.binding = line.second.value) ∧
      ((∃ block, recorded = some block ∧ block.group = line.group ∧ block.binding = line.binding) ↔
        ¬line.subject.HasKeyword ∧ (line.groupFirst = true ∨ line.group = line.binding)) := by
  intro outcome recorded
  have found (noKeyword : ¬line.subject.HasKeyword) : outcome.error? = none ∧
      ∃ block, recorded = some block ∧
        block.group = line.first.value ∧ block.binding = line.second.value := by
    obtain ⟨fields, succeeds, stored⟩ := line.readLine_recorded noKeyword
    obtain ⟨block, hit, same⟩ := Option.map_eq_some_iff.1 stored
    cases same
    exact ⟨succeeds, _, hit, rfl, rfl⟩
  refine ⟨fun keyword => line.readLine_keyword keyword _, found, ?_⟩
  by_cases keyword : line.subject.HasKeyword
  · have missing : recorded = none := line.readLine_keyword keyword _
    simp [missing, keyword]
  · obtain ⟨-, block, hit, group, binding⟩ := found keyword
    rw [hit, ← values_eq_iff]
    simp only [Option.some.injEq, exists_eq_left', group, binding, Int.natCast_inj, keyword,
      not_false_eq_true, true_and]

def lamp : Printed.Name := ⟨"lamp".toList, by decide, by decide, by decide⟩

/-- A lamp whose binding stands in front of its group. -/
def bindingFirst : Annotated :=
  ⟨2, 5, by decide, by decide, false, [' '], Text.allBlank_blank, [' '], Text.allBlank_blank, lamp,
    .single "f32".toList (by decide) (by decide)⟩

/-- A lamp of a type that has the name of the keyword of structs. -/
def structTyped : Annotated :=
  ⟨2, 5, by decide, by decide, true, [' '], Text.allBlank_blank, [' '], Text.allBlank_blank, lamp,
    .single "struct".toList (by decide) (by decide)⟩

/-- The first lamp gets its binding as its group, and the second one is not recorded. -/
theorem readLine_mistaken :
    let recorded (line : Annotated) :=
      (Reading.start.readLine line.text).reading.declared.uniforms.find? line.name.text
    bindingFirst.text = "@binding(5) @group(2) var<uniform> lamp: f32".toList ∧
      structTyped.text = "@group(2) @binding(5) var<uniform> lamp: struct".toList ∧
      recorded bindingFirst = some ⟨"lamp", 5, 2, [⟨"lamp", "f32"⟩]⟩ ∧
      recorded structTyped = none ∧
      ∀ line ∈ [bindingFirst, structTyped], ¬∃ block, recorded line = some block ∧
        block.group = line.group ∧ block.binding = line.binding := by
  intro recorded
  have first : recorded bindingFirst = some ⟨"lamp", 5, 2, [⟨"lamp", "f32"⟩]⟩ := by decide +kernel
  have second : recorded structTyped = none := by decide +kernel
  refine ⟨by decide +kernel, by decide +kernel, first, second, ?_⟩
  simp only [List.forall_mem_cons, List.not_mem_nil, first, second]
  refine ⟨?_, ?_, nofun⟩
  · rintro ⟨block, same, group, -⟩
    rw [← Option.some.inj same] at group
    exact absurd group (by decide)
  · rintro ⟨block, same, -⟩
    cases same

end Annotated
end ShaderInterface
