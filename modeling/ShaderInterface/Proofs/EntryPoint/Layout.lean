import ShaderInterface.EntryPoint
import ShaderInterface.Proofs.Brackets.Parentheses
import ShaderInterface.Proofs.Brackets.Pieces
import ShaderInterface.Proofs.Text.Line

set_option autoImplicit false

namespace ShaderInterface

open Text (AllBlank)

namespace LaidOut

structure Arguments where
  gap : Text
  inside : Text
  blank : AllBlank gap
  noOpening : '(' ∉ inside
  noClosing : ')' ∉ inside
  noBrace : '\x7b' ∉ inside

structure Attribute where
  word : Text
  arguments? : Option Arguments
  gap : Text
  present : word ≠ []
  named : ∀ c ∈ word, Text.isWord c = true
  blank : AllBlank gap

structure Input where
  name : Text
  type : Text
  namePresent : name ≠ []
  typePresent : type ≠ []
  ascii : name.all Text.isNameChar = true
  balanced : Text.endsType 0 type = true

def Input.text (input : Input) : Text := input.name ++ ':' :: input.type

def Input.field (input : Input) : Field := ⟨input.name, input.type⟩

/-- A parameter with its attributes. What states the name and the type may have blanks anywhere; an
attribute without arguments is kept apart from it by a blank. -/
structure Parameter where
  lead : Text
  attributes : List Attribute
  input : Input
  spelled : Text
  blank : AllBlank lead
  spells : Text.squeeze spelled = input.text
  apart : ∀ last ∈ attributes.getLast?, last.arguments? = none → last.gap ≠ []

def Arguments.text (arguments : Arguments) : Text :=
  arguments.gap ++ '(' :: (arguments.inside ++ [')'])

def Attribute.argumentsText (a : Attribute) : Text := (a.arguments?.map Arguments.text).getD []

def Attribute.text (a : Attribute) : Text := '@' :: (a.word ++ (a.argumentsText ++ a.gap))

def Parameter.text (parameter : Parameter) : Text :=
  parameter.lead ++ (parameter.attributes.flatMap Attribute.text ++ parameter.spelled)

end LaidOut

/-- Parameters with a comma between them, and `ending` behind the last. -/
def LaidOut.listText : List Text → (ending : Text) → Text
  | [], ending => ending
  | [parameter], ending => parameter ++ ending
  | parameter :: next :: rest, ending => parameter ++ ',' :: listText (next :: rest) ending

/-- A signature as it stands between the marker of its entry point and the opening brace. The list
ends in blanks, with one comma among them or none. -/
structure LaidOut where
  before : Text
  parameters : List LaidOut.Parameter
  ending : Text
  behind : Text
  returns? : Option Text
  blankBefore : AllBlank before
  blankBehind : AllBlank behind
  ends : Text.squeeze ending = [] ∨ Text.squeeze ending = [',']
  noBrace : ∀ returned ∈ returns?, '\x7b' ∉ returned

namespace LaidOut

def list (laidOut : LaidOut) : Text :=
  listText (laidOut.parameters.map Parameter.text) laidOut.ending

/-- What stands behind the list: blanks, and the arrow with the return annotation, if there is one. -/
def tail (laidOut : LaidOut) : Text :=
  laidOut.behind ++ (laidOut.returns?.map ("->".toList ++ ·)).getD []

def text (laidOut : LaidOut) : Text :=
  laidOut.before ++ '(' :: (laidOut.list ++ ')' :: laidOut.tail)

def inputs (laidOut : LaidOut) : List Input := laidOut.parameters.map Parameter.input

/-- What is read. -/
def signature (laidOut : LaidOut) : Signature :=
  ⟨laidOut.inputs.map Input.text, (laidOut.returns?.map Text.trim).getD []⟩

variable {text left right ending : Text}

def isSpelledChar (c : Char) : Bool := Text.isBlank c || Text.isTypeChar c || c == ':'

theorem isSpelledChar_of_squeeze (solid : ∀ c ∈ Text.squeeze text, isSpelledChar c = true) :
    ∀ c ∈ text, isSpelledChar c = true := by
  intro c member
  cases blank : Text.isBlank c with
  | true => simp [isSpelledChar, blank]
  | false => exact solid c (List.mem_filter.2 ⟨member, by simp [blank]⟩)

theorem Input.named (input : Input) : ∀ c ∈ input.name, Text.isNameChar c = true :=
  List.all_eq_true.1 input.ascii

theorem Input.chars (input : Input) : ∀ c ∈ input.text, isSpelledChar c = true := by
  intro c member
  rcases List.mem_append.1 member with named | typed
  · simp [isSpelledChar, Text.isTypeChar, input.named c named]
  · rcases List.mem_cons.1 typed with rfl | inType
    · rfl
    · simp [isSpelledChar, Text.isTypeChar_of_endsType input.balanced c inType]

theorem Parameter.chars (parameter : Parameter) :
    ∀ c ∈ parameter.spelled, isSpelledChar c = true := by
  apply isSpelledChar_of_squeeze
  rw [parameter.spells]
  exact parameter.input.chars

theorem ending_chars (ends : Text.squeeze ending = [] ∨ Text.squeeze ending = [',']) :
    ∀ c ∈ ending, isSpelledChar c = true := by
  apply isSpelledChar_of_squeeze
  rcases ends with none | one
  · rw [none]
    exact nofun
  · rw [one]
    exact List.forall_mem_singleton.2 rfl

/-- A part of a parameter list: the parentheses in it are closed, and it holds no brace. -/
structure Listed (text : Text) : Prop where
  noBrace : '\x7b' ∉ text
  passes : Brackets.Passes text

theorem Listed.append (first : Listed left) (second : Listed right) : Listed (left ++ right) :=
  ⟨List.mem_append.not.2 (not_or.2 ⟨first.noBrace, second.noBrace⟩),
    first.passes.append second.passes⟩

theorem Listed.of_chars {allowed : Char → Bool} (chars : ∀ c ∈ text, allowed c = true)
    (excluded : allowed '(' = false ∧ allowed ')' = false ∧ allowed '\x7b' = false) :
    Listed text := by
  obtain ⟨opening, closing, brace⟩ := excluded
  refine ⟨Text.not_mem_of_chars chars brace, .of_plain fun c member => ⟨?_, ?_⟩⟩
  · rintro rfl
    exact Text.not_mem_of_chars chars opening member
  · rintro rfl
    exact Text.not_mem_of_chars chars closing member

theorem listed_of_allBlank (blank : AllBlank text) : Listed text := .of_chars blank (by decide)

theorem Arguments.listed (arguments : Arguments) : Listed arguments.text := by
  have inside : Listed ('(' :: (arguments.inside ++ [')'])) := by
    refine ⟨?_, .enclose (.of_plain fun c member => ⟨?_, ?_⟩)⟩
    · simp [arguments.noBrace]
    · rintro rfl
      exact arguments.noOpening member
    · rintro rfl
      exact arguments.noClosing member
  exact (listed_of_allBlank arguments.blank).append inside

theorem Attribute.listed (a : Attribute) : Listed a.text := by
  have sign : Listed ['@'] := ⟨by decide, .of_plain (List.forall_mem_singleton.2 (by decide))⟩
  have arguments : Listed a.argumentsText := by
    rw [Attribute.argumentsText]
    cases a.arguments? with
    | none => exact listed_of_allBlank .nil
    | some arguments => exact arguments.listed
  exact sign.append ((Listed.of_chars a.named (by decide)).append
    (arguments.append (listed_of_allBlank a.blank)))

theorem Parameter.listed (parameter : Parameter) : Listed parameter.text := by
  have attributes : Listed (parameter.attributes.flatMap Attribute.text) := by
    induction parameter.attributes with
    | nil => exact listed_of_allBlank .nil
    | cons first rest ih => exact first.listed.append ih
  exact (listed_of_allBlank parameter.blank).append
    (attributes.append (.of_chars parameter.chars (by decide)))

theorem listText_listed {parameters : List Text} (each : ∀ text ∈ parameters, Listed text)
    (last : Listed ending) : Listed (listText parameters ending) := by
  have comma : Listed [','] := ⟨by decide, .of_plain (List.forall_mem_singleton.2 (by decide))⟩
  induction parameters with
  | nil => exact last
  | cons first rest ih =>
    obtain ⟨here, later⟩ := List.forall_mem_cons.1 each
    cases rest with
    | nil => exact here.append last
    | cons next others => exact here.append (comma.append (ih later))

theorem list_listed (laidOut : LaidOut) : Listed laidOut.list := by
  refine listText_listed (List.forall_mem_map.2 fun parameter _ => parameter.listed) ?_
  exact .of_chars (ending_chars laidOut.ends) (by decide)

theorem tail_noBrace (laidOut : LaidOut) : '\x7b' ∉ laidOut.tail := by
  rw [tail, List.mem_append, not_or]
  refine ⟨laidOut.blankBehind.not_mem (by decide), ?_⟩
  cases given : laidOut.returns? with
  | none => exact List.not_mem_nil
  | some returned =>
    rw [Option.map_some, Option.getD_some, List.mem_append, not_or]
    exact ⟨by decide, laidOut.noBrace returned given⟩

theorem text_noBrace (laidOut : LaidOut) : '\x7b' ∉ laidOut.text := by
  simp only [LaidOut.text, List.mem_append, List.mem_cons, not_or]
  exact ⟨laidOut.blankBefore.not_mem (by decide), by decide, laidOut.list_listed.noBrace, by decide,
    laidOut.tail_noBrace⟩

/-- A text without its attributes and blanks. -/
def bare (text : Text) : Text := Text.squeeze (Attribute.strip text)

theorem bare_nil : bare [] = [] := by
  rw [bare, Attribute.strip]
  rfl

theorem bare_append (noAt : '@' ∉ left) (right : Text) :
    bare (left ++ right) = Text.squeeze left ++ bare right := by
  induction left with
  | nil => rfl
  | cons c rest ih =>
    obtain ⟨other, later⟩ := not_or.1 (List.mem_cons.not.1 noAt)
    have kept : Attribute.strip (c :: (rest ++ right)) =
        c :: Attribute.strip (rest ++ right) := by
      rw [Attribute.strip, if_neg (by simp [Ne.symm other])]
    rw [bare, Text.squeeze] at ih ⊢
    rw [List.cons_append, kept, List.filter_cons, ih later, Text.squeeze, Text.squeeze,
      List.filter_cons]
    split <;> rfl

theorem squeeze_of_allBlank (blank : AllBlank text) : Text.squeeze text = [] := by
  rw [Text.squeeze, List.filter_eq_nil_iff]
  intro c member
  simp [blank c member]

theorem bare_blank_append (blank : AllBlank left) (right : Text) :
    bare (left ++ right) = bare right := by
  rw [bare_append (blank.not_mem (by decide)), squeeze_of_allBlank blank, List.nil_append]

theorem bare_dropWhile_blank (text : Text) : bare (text.dropWhile Text.isBlank) = bare text := by
  have blank : AllBlank (text.takeWhile Text.isBlank) := fun _ member =>
    List.mem_takeWhile_imp member
  rw [← bare_blank_append blank, List.takeWhile_append_dropWhile]

/-- The text does not go on with arguments. -/
def OpensNone (text : Text) : Prop := (text.dropWhile Text.isBlank).head? ≠ some '('

theorem dropArguments_of_opensNone (opensNone : OpensNone text) :
    Attribute.dropArguments (text.dropWhile Text.isBlank) =
      text.dropWhile Text.isBlank := by
  unfold Attribute.dropArguments
  split
  · next inside starts =>
    rw [OpensNone, starts] at opensNone
    exact absurd rfl opensNone
  · rfl

/-- A text that starts with blanks, or with a mark when there are none, does not go on with a word. -/
theorem head?_blank_append {gap : Text} (blank : AllBlank gap)
    (start : gap = [] → right.head?.any Text.isWord = false) :
    (gap ++ right).head?.any Text.isWord = false := by
  cases gap with
  | nil => exact start rfl
  | cons c rest => exact Text.isWord_of_isBlank (blank c (by simp))

/-- The name of an attribute is dropped with the blanks and the arguments behind it. -/
theorem Attribute.strip_text (a : Attribute)
    (boundary : (a.argumentsText ++ (a.gap ++ right)).head?.any Text.isWord = false) :
    Attribute.strip (a.text ++ right) = Attribute.strip (Attribute.dropArguments
      ((a.argumentsText ++ (a.gap ++ right)).dropWhile Text.isBlank)) := by
  have start (behind : Text) : (a.word ++ behind).head?.any Text.isWord = true := by
    obtain ⟨c, word, spelled⟩ := List.exists_cons_of_ne_nil a.present
    rw [spelled]
    exact a.named c (by simp [spelled])
  rw [Attribute.text, List.cons_append, Attribute.strip, List.append_assoc, List.append_assoc,
    if_pos ⟨rfl, start _⟩, Attribute.dropBody, Text.dropWhile_run a.named boundary]

theorem Arguments.dropArguments_text (arguments : Arguments) (behind : Text) :
    Attribute.dropArguments ((arguments.text ++ behind).dropWhile Text.isBlank) = behind := by
  have start : (arguments.text ++ behind).dropWhile Text.isBlank =
      '(' :: (arguments.inside ++ ')' :: behind) := by
    rw [Arguments.text, List.append_assoc, Text.dropWhile_run arguments.blank rfl,
      List.cons_append, List.append_assoc, List.singleton_append]
  rw [start]
  simp only [Attribute.dropArguments, Text.cutAt?_append_cons arguments.noClosing]

/-- An attribute leaves nothing, provided that what stands behind it is not taken for more of it. -/
theorem Attribute.bare_append (a : Attribute) (opensNone : OpensNone right)
    (apart : a.arguments? = none → a.gap = [] → right.head? = some '@') :
    bare (a.text ++ right) = bare right := by
  cases given : a.arguments? with
  | none =>
    have without : a.argumentsText = [] := by rw [Attribute.argumentsText, given]; rfl
    have boundary : (a.gap ++ right).head?.any Text.isWord = false := by
      refine head?_blank_append a.blank fun empty => ?_
      rw [apart given empty]
      decide
    have dropped : (a.gap ++ right).dropWhile Text.isBlank = right.dropWhile Text.isBlank :=
      List.dropWhile_append_of_pos a.blank
    rw [bare, a.strip_text (by rwa [without]), without, List.nil_append, dropped,
      dropArguments_of_opensNone opensNone, ← bare, bare_dropWhile_blank]
  | some arguments =>
    have with_ : a.argumentsText = arguments.text := by rw [Attribute.argumentsText, given]; rfl
    have boundary : (arguments.text ++ (a.gap ++ right)).head?.any Text.isWord = false := by
      rw [Arguments.text, List.append_assoc]
      exact head?_blank_append arguments.blank fun _ => rfl
    rw [bare, a.strip_text (by rwa [with_]), with_, arguments.dropArguments_text, ← bare,
      bare_blank_append a.blank]

theorem bare_attributes {attributes : List Attribute} (opensNone : OpensNone right)
    (apart : ∀ last ∈ attributes.getLast?, last.arguments? = none → last.gap ≠ []) :
    bare (attributes.flatMap Attribute.text ++ right) = bare right := by
  -- what follows an attribute is the sign of the next, or behind the last the parameter itself
  induction attributes with
  | nil => rfl
  | cons first rest ih =>
    rw [List.flatMap_cons, List.append_assoc]
    cases rest with
    | nil =>
      exact first.bare_append opensNone fun none empty => absurd empty (apart first rfl none)
    | cons next others =>
      have start : ((next :: others).flatMap Attribute.text ++ right).head? = some '@' := rfl
      have signs : OpensNone ((next :: others).flatMap Attribute.text ++ right) := by
        rw [OpensNone, List.flatMap_cons, List.append_assoc, Attribute.text, List.cons_append,
          List.dropWhile_cons_of_neg (by decide)]
        simp
      rw [first.bare_append signs fun _ _ => start]
      exact ih (by rwa [List.getLast?_cons_cons] at apart)

/-- A parameter starts with its name. -/
theorem Parameter.opensNone (parameter : Parameter) (more : Text) :
    OpensNone (parameter.spelled ++ more) := by
  have kept : parameter.spelled.dropWhile Text.isBlank ≠ [] := by
    intro none
    have empty := squeeze_of_allBlank (List.dropWhile_eq_nil_iff.1 none)
    rw [parameter.spells] at empty
    exact List.append_ne_nil_of_left_ne_nil parameter.input.namePresent _ empty
  obtain ⟨c, rest, starts⟩ := List.exists_cons_of_ne_nil kept
  have inside : c ∈ parameter.spelled := by
    have among : c ∈ parameter.spelled.dropWhile Text.isBlank := by simp [starts]
    exact (List.dropWhile_suffix _).subset among
  have other : c ≠ '(' := by
    rintro rfl
    exact Text.not_mem_of_chars parameter.chars (by decide) inside
  rw [OpensNone, List.dropWhile_append, starts]
  simpa using other

theorem Parameter.bare_text (parameter : Parameter) (more : Text) :
    bare (parameter.text ++ more) = parameter.input.text ++ bare more := by
  have noAt : '@' ∉ parameter.spelled := Text.not_mem_of_chars parameter.chars (by decide)
  rw [Parameter.text, List.append_assoc, List.append_assoc, bare_blank_append parameter.blank,
    bare_attributes (parameter.opensNone more) parameter.apart, LaidOut.bare_append noAt,
    parameter.spells]

/-- What is left of a list are the parameters, with their commas. -/
theorem bare_listText (parameters : List Parameter) (ending : Text) :
    bare (listText (parameters.map Parameter.text) ending) =
      listText (parameters.map fun parameter => parameter.input.text) (bare ending) := by
  induction parameters with
  | nil => rfl
  | cons first rest ih =>
    cases rest with
    | nil => exact first.bare_text ending
    | cons next others =>
      have noAt : '@' ∉ [','] := by decide
      have comma (text : Text) : bare (',' :: text) = ',' :: bare text := bare_append noAt text
      rw [List.map_cons, List.map_cons, List.map_cons, List.map_cons, listText, listText,
        first.bare_text, comma]
      exact congrArg (first.input.text ++ ',' :: ·) ih

end LaidOut
end ShaderInterface
