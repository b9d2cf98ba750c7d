import ShaderInterface.Proofs.Brackets.Pieces
import ShaderInterface.Proofs.Declaration.Entries
import ShaderInterface.Proofs.Text.Line

set_option autoImplicit false

namespace ShaderInterface.Printed

open Text (beside)

/-- A name. It is not the keyword of a struct. -/
structure Name where
  text : Text
  present : text ≠ []
  ascii : text.all Text.isNameChar = true
  noKeyword : text ≠ "struct".toList

/-- A type. None of its words is the keyword of a struct. -/
structure TypeName where
  text : Text
  present : text ≠ []
  balanced : Text.endsType 0 text = true
  noKeyword : "struct".toList ∉ Text.runs text

structure Member where
  name : Name
  type : TypeName

/-- The members on one line of a body. A comma may stand behind the last one. -/
structure Row where
  members : List Member
  comma : Bool

/-- A body. Its first row stands behind the opening brace, every further one on a line of its own,
and the closing brace behind the last one. Rows may be empty. -/
structure Body where
  first : Row
  rest : List Row

/-- What stands in front of a variable. An address space may have an access mode. -/
inductive Introducer where
  | none
  | uniform
  | var
  | addressed (space : Name) (access? : Option Name)

def uniformName : Name := ⟨"uniform".toList, by decide, by decide, by decide⟩

structure Tag (stage : Stage) where
  word : Name
  names : word.text.map Char.toLower ∈ Stage.fragmentWords ↔ stage = .fragment

/-- What a place makes of a declaration. -/
inductive Role where
  | uniform
  | pushConstant (stage : Stage) (tag : Tag stage)

/-- A place: a group and a binding, with no more digits than can be read. -/
structure Place where
  group : Nat
  binding : Nat
  role : Role
  groupReadable : (Text.decimal group).length ≤ Text.numeralLimit
  bindingReadable : (Text.decimal binding).length ≤ Text.numeralLimit

inductive Shape where
  | block (body : Body)
  | single (type : TypeName)

/-- A uniform or push constant. A name that nothing introduces is not one of the introducing
words. -/
structure Resource where
  place : Place
  placeAlone : Bool
  introducer : Introducer
  name : Name
  shape : Shape
  distinguished : introducer = .none → name.text ≠ "var".toList ∧ name.text ≠ "uniform".toList

inductive Statement where
  | struct (name : Name) (braceBelow : Bool) (body : Body)
  | bound (resource : Resource)

def Member.field (member : Member) : Field := ⟨member.name.text, member.type.text⟩

def Row.fields (row : Row) : List Field := row.members.map Member.field

def Body.fields (body : Body) : List Field := body.first.fields ++ body.rest.flatMap Row.fields

def Place.entry (place : Place) (name : Text) (fields : List Field) : TableEntry :=
  let block : Block := ⟨name, place.group, place.binding, fields⟩
  match place.role with
  | .uniform => .uniform block
  | .pushConstant stage _ => .pushConstant ⟨block, stage⟩

/-- The fields of a block, or the single field of the name itself. -/
def Resource.fields (resource : Resource) : List Field :=
  match resource.shape with
  | .block body => body.fields
  | .single type => [⟨resource.name.text, type.text⟩]

def Resource.entry (resource : Resource) : TableEntry :=
  resource.place.entry resource.name.text resource.fields

def Statement.entry : Statement → TableEntry
  | struct name _ body => .struct name.text body.fields
  | bound resource => resource.entry

def Member.text (member : Member) : Text := beside (member.name.text ++ [':']) member.type.text

def membersText : List Member → Text
  | [] => []
  | [member] => member.text
  | member :: next :: rest => beside (member.text ++ [',']) (membersText (next :: rest))

def Row.text (row : Row) : Text := membersText row.members ++ if row.comma then [','] else []

/-- A line, closed when no rows follow it. -/
def closeBefore (rest : List Row) (line : Text) : Text :=
  if rest.isEmpty then beside line ['\x7d'] else line

def rowLines : List Row → List Text
  | [] => []
  | row :: rest => closeBefore rest row.text :: rowLines rest

/-- The lines of a body behind `opening`, which ends with the opening brace. -/
def Body.lines (opening : Text) (body : Body) : List Text :=
  closeBefore body.rest (beside opening body.first.text) :: rowLines body.rest

def addressText (space : Name) : Option Name → Text
  | none => space.text
  | some access => beside (space.text ++ [',']) access.text

def Introducer.text : Introducer → Text
  | none => []
  | uniform => "uniform".toList
  | var => "var".toList
  | addressed space access? => "var<".toList ++ (addressText space access? ++ ['>'])

def Role.text : Role → Text
  | uniform => []
  | pushConstant _ tag => "@push_constant(".toList ++ (tag.word.text ++ [')'])

def Place.text (place : Place) : Text :=
  beside
    (beside ("@group(".toList ++ (Text.decimal place.group ++ [')']))
      ("@binding(".toList ++ (Text.decimal place.binding ++ [')'])))
    place.role.text

/-- The name of a resource with what introduces it, and the start of its body or its type. -/
def Resource.head (resource : Resource) : Text :=
  beside resource.introducer.text <|
    match resource.shape with
    | .block _ => beside resource.name.text ['\x7b']
    | .single type => Member.text ⟨resource.name, type⟩

/-- The lines that start with `opening`, which ends with the head of the resource. -/
def Resource.linesFrom (opening : Text) (resource : Resource) : List Text :=
  match resource.shape with
  | .block body => body.lines opening
  | .single _ => [opening]

def Resource.lines (resource : Resource) : List Text :=
  if resource.placeAlone then resource.place.text :: resource.linesFrom resource.head
  else resource.linesFrom (beside resource.place.text resource.head)

def structHead (name : Name) : Text := beside "struct".toList name.text

def Statement.lines : Statement → List Text
  | struct name true body => structHead name :: body.lines ['\x7b']
  | struct name false body => body.lines (beside (structHead name) ['\x7b'])
  | bound resource => resource.lines

def isRowChar (c : Char) : Bool := Text.isTypeChar c || c == ' ' || c == ':'

def isLineChar (c : Char) : Bool :=
  isRowChar c || c == '\x7b' || c == '\x7d' || c == '@' || c == '(' || c == ')'

/-- A part of a line without the keyword of a struct. -/
structure Plain (allowed : Char → Bool) (text : Text) : Prop extends Text.Part allowed text where
  noKeyword : "struct".toList ∉ Text.runs text

variable {allowed wider : Char → Bool} {left right text : Text}

theorem Plain.nil : Plain allowed [] := ⟨⟨Text.Tidy.nil, by simp⟩, by decide⟩

/-- A part given by its characters. -/
theorem Plain.literal (spelled : text.head?.any Text.isBlank = false ∧
    text.getLast?.any Text.isBlank = false ∧ text.all allowed = true ∧
      "struct".toList ∉ Text.runs text) : Plain allowed text := by
  obtain ⟨first, last, chars, noKeyword⟩ := spelled
  exact ⟨⟨⟨first, last⟩, List.all_eq_true.1 chars⟩, noKeyword⟩

theorem Plain.append (first : Plain allowed left) (second : Plain allowed right)
    (boundary : left.getLast?.any Text.isWord = false ∨ right.head?.any Text.isWord = false) :
    Plain allowed (left ++ right) :=
  ⟨first.toPart.append second.toPart,
    Text.not_mem_runs_append first.noKeyword second.noKeyword boundary⟩

theorem Plain.beside (blank : allowed ' ' = true) (first : Plain allowed left)
    (second : Plain allowed right) : Plain allowed (beside left right) :=
  ⟨first.toPart.beside blank second.toPart,
    Text.not_mem_runs_beside first.noKeyword second.noKeyword⟩

theorem Plain.mono (plain : Plain allowed text)
    (wide : ∀ c, allowed c = true → wider c = true) : Plain wider text :=
  ⟨plain.toPart.mono wide, plain.noKeyword⟩

theorem isRowChar_of_isNameChar (c : Char) (named : Text.isNameChar c = true) :
    isRowChar c = true := by
  simp [isRowChar, Text.isTypeChar, named]

theorem isRowChar_of_isTypeChar (c : Char) (typed : Text.isTypeChar c = true) :
    isRowChar c = true := by
  simp [isRowChar, typed]

theorem isLineChar_of_isRowChar (c : Char) (inRow : isRowChar c = true) : isLineChar c = true := by
  simp [isLineChar, inRow]

theorem Name.named (name : Name) : ∀ c ∈ name.text, Text.isNameChar c = true :=
  List.all_eq_true.1 name.ascii

theorem Name.solid (name : Name) : ∀ c ∈ name.text, Text.isBlank c = false :=
  fun c member => Text.isBlank_of_isNameChar (name.named c member)

theorem Name.plain (name : Name) : Plain isRowChar name.text := by
  refine ⟨⟨Text.tidy_of_solid name.solid, ?_⟩, ?_⟩
  · exact fun c member => isRowChar_of_isNameChar c (name.named c member)
  · rw [Text.runs_of_name name.named, List.mem_singleton]
    exact Ne.symm name.noKeyword

theorem solid_of_endsType {depth : Nat} (balanced : Text.endsType depth text = true) :
    ∀ c ∈ text, Text.isBlank c = false := by
  intro c member
  have typed := Text.isTypeChar_of_endsType balanced c member
  simp only [Text.isTypeChar, Bool.or_eq_true, beq_iff_eq] at typed
  rcases typed with ((named | rfl) | rfl) | rfl
  · exact Text.isBlank_of_isNameChar named
  all_goals decide

theorem TypeName.solid (type : TypeName) : ∀ c ∈ type.text, Text.isBlank c = false :=
  solid_of_endsType type.balanced

theorem TypeName.plain (type : TypeName) : Plain isRowChar type.text := by
  refine ⟨⟨Text.tidy_of_solid type.solid, ?_⟩, type.noKeyword⟩
  intro c member
  exact isRowChar_of_isTypeChar c (Text.isTypeChar_of_endsType type.balanced c member)

/-- Whether a character may end a part and keeps words apart. -/
def isMark (allowed : Char → Bool) (c : Char) : Bool :=
  allowed c && !Text.isBlank c && !Text.isWord c

/-- A mark on its own, such as a brace. -/
theorem Plain.mark {mark : Char} (marks : isMark allowed mark = true) : Plain allowed [mark] := by
  simp only [isMark, Bool.and_eq_true, Bool.not_eq_true'] at marks
  obtain ⟨⟨admitted, solid⟩, outside⟩ := marks
  refine ⟨⟨⟨by simpa using solid, by simpa using solid⟩, by simpa using admitted⟩, ?_⟩
  rw [Text.runs_cons_other outside]
  decide

theorem Plain.mark_after (first : Plain allowed left) {mark : Char}
    (marks : isMark allowed mark = true) : Plain allowed (left ++ [mark]) := by
  have outside : Text.isWord mark = false := by
    simp only [isMark, Bool.and_eq_true, Bool.not_eq_true'] at marks
    exact marks.2
  exact first.append (Plain.mark marks) (Or.inr (by simpa using outside))

theorem Member.plain (member : Member) : Plain isRowChar member.text :=
  Plain.beside (by decide) (member.name.plain.mark_after (by decide)) member.type.plain

theorem membersText_plain (members : List Member) : Plain isRowChar (membersText members) := by
  induction members with
  | nil => exact Plain.nil
  | cons member rest ih =>
    cases rest with
    | nil => exact member.plain
    | cons next later =>
      exact Plain.beside (by decide) (member.plain.mark_after (by decide)) ih

theorem Row.plain (row : Row) : Plain isRowChar row.text := by
  unfold Row.text
  split
  · exact (membersText_plain row.members).mark_after (by decide)
  · rw [List.append_nil]
    exact membersText_plain row.members

theorem closeBefore_part (rest : List Row) (part : Text.Part isLineChar text) :
    Text.Part isLineChar (closeBefore rest text) := by
  unfold closeBefore
  split
  · exact part.beside (by decide) (Plain.mark (by decide)).toPart
  · exact part

theorem closeBefore_plain (rest : List Row) (blank : allowed ' ' = true)
    (brace : isMark allowed '\x7d' = true) (plain : Plain allowed text) :
    Plain allowed (closeBefore rest text) := by
  unfold closeBefore
  split
  · exact plain.beside blank (Plain.mark brace)
  · exact plain

/-- What stands in parentheses behind a word. -/
theorem Plain.enclosed {word inside : Text} (opening : Plain isLineChar word)
    (ending : word.getLast?.any Text.isWord = false) (content : Plain isLineChar inside)
    {mark : Char} (marks : isMark isLineChar mark = true) :
    Plain isLineChar (word ++ (inside ++ [mark])) :=
  opening.append (content.mark_after marks) (Or.inl ending)

theorem Name.plainInLine (name : Name) : Plain isLineChar name.text :=
  name.plain.mono isLineChar_of_isRowChar

theorem addressText_plain (space : Name) (access? : Option Name) :
    Plain isRowChar (addressText space access?) := by
  cases access? with
  | none => exact space.plain
  | some access =>
    exact Plain.beside (by decide) (space.plain.mark_after (by decide)) access.plain

theorem Introducer.plain (introducer : Introducer) : Plain isLineChar introducer.text := by
  cases introducer with
  | none => exact Plain.nil
  | uniform => exact Plain.literal (by decide)
  | var => exact Plain.literal (by decide)
  | addressed space access? =>
    exact Plain.enclosed (Plain.literal (by decide)) (by decide)
      ((addressText_plain space access?).mono isLineChar_of_isRowChar) (by decide)

theorem decimal_plain (n : Nat) : Plain isLineChar (Text.decimal n) := by
  have named : ∀ c ∈ Text.decimal n, Text.isNameChar c = true :=
    fun c member => Text.isNameChar_of_isDigit (Text.isDigit_of_mem_decimal member)
  refine ⟨⟨Text.tidy_of_solid ?_, ?_⟩, ?_⟩
  · exact fun c member => Text.isBlank_of_isNameChar (named c member)
  · exact fun c member => isLineChar_of_isRowChar c (isRowChar_of_isNameChar c (named c member))
  · rw [Text.runs_of_name named, List.mem_singleton]
    intro keyword
    have digit : 's'.isDigit = true := Text.isDigit_of_mem_decimal (n := n) (by simp [← keyword])
    exact absurd digit (by decide)

theorem Role.plain (role : Role) : Plain isLineChar role.text := by
  cases role with
  | uniform => exact Plain.nil
  | pushConstant stage tag =>
    exact Plain.enclosed (Plain.literal (by decide)) (by decide) tag.word.plainInLine (by decide)

theorem Place.plain (place : Place) : Plain isLineChar place.text := by
  have group : Plain isLineChar ("@group(".toList ++ (Text.decimal place.group ++ [')'])) :=
    Plain.enclosed (Plain.literal (by decide)) (by decide) (decimal_plain place.group) (by decide)
  have binding :
      Plain isLineChar ("@binding(".toList ++ (Text.decimal place.binding ++ [')'])) :=
    Plain.enclosed (Plain.literal (by decide)) (by decide) (decimal_plain place.binding)
      (by decide)
  exact (group.beside (by decide) binding).beside (by decide) place.role.plain

theorem Resource.head_plain (resource : Resource) : Plain isLineChar resource.head := by
  apply resource.introducer.plain.beside (by decide)
  split
  · exact resource.name.plainInLine.beside (by decide) (Plain.mark (by decide))
  · exact (Member.plain _).mono isLineChar_of_isRowChar

theorem structHead_part (name : Name) : Text.Part isLineChar (structHead name) :=
  Text.Part.beside (by decide) ⟨⟨by decide, by decide⟩, List.all_eq_true.1 (by decide)⟩
    name.plainInLine.toPart

end ShaderInterface.Printed
