import ShaderInterface.Proofs.Declaration.Annotations
import ShaderInterface.Proofs.Text.Names
import ShaderInterface.Proofs.Text.Runs

set_option autoImplicit false

/-!
The form of an annotation. Among the lines of ASCII characters, those have one whose first two
parentheses enclose digits and in which an attribute right behind them is closed; it ends with the
last parenthesis of these, and all other lines are refused. The form is told by how the line is
spelled, without the searches that read it.
-/
namespace ShaderInterface

namespace Text

variable {literal text : Text} {value : Nat} {c : Char}

structure IsDigits (literal : Text) : Prop where
  present : literal ≠ []
  digits : ∀ c ∈ literal, c.isDigit = true

def valueOf (literal : Text) : Nat := Nat.ofDigitChars 10 literal 0

def IsAscii (text : Text) : Prop := ∀ c ∈ text, c.toNat < 0x80

instance (text : Text) : Decidable text.IsAscii := List.decidableBAll _ text

/-- The text has no more digits than are read as a number. -/
def HasFewDigits (text : Text) : Prop := text.countP Char.isDigit ≤ numeralLimit

theorem isDigit_eq_of_ascii (ascii : c.toNat < 0x80) : isDigit c = c.isDigit :=
  forall_ascii (P := fun c => isDigit c = c.isDigit) (by decide) ascii

theorem IsDigits.hasFewDigits_iff (written : literal.IsDigits) :
    literal.HasFewDigits ↔ literal.length ≤ numeralLimit := by
  rw [HasFewDigits, List.countP_eq_length.2 written.digits]

theorem numeral?_of_isDigits (written : literal.IsDigits) (few : literal.HasFewDigits) :
    numeral? literal = some literal.valueOf :=
  numeral?_of_digits written.present written.digits (written.hasFewDigits_iff.1 few)

/-- ASCII has no digits that are none of a number. -/
theorem isDigits_of_isDigit (ascii : literal.IsAscii) (present : literal ≠ [])
    (digits : ∀ c ∈ literal, isDigit c = true) : literal.IsDigits :=
  ⟨present, fun c member => isDigit_eq_of_ascii (ascii c member) ▸ digits c member⟩

theorem numeral?_eq_some_iff (ascii : literal.IsAscii) (few : literal.HasFewDigits) :
    numeral? literal = some value ↔ literal.IsDigits ∧ literal.valueOf = value := by
  constructor
  · intro read
    have numeral := isNumeral_iff.2 (Option.ne_none_iff_exists'.2 ⟨value, read⟩)
    have written := isDigits_of_isDigit ascii numeral.present numeral.isDigit
    rw [numeral?_of_isDigits written few] at read
    exact ⟨written, Option.some.inj read⟩
  · rintro ⟨written, rfl⟩
    exact numeral?_of_isDigits written few

theorem not_isUnread (ascii : literal.IsAscii) (few : literal.HasFewDigits) :
    ¬literal.IsUnread := by
  intro unread
  have written := isDigits_of_isDigit ascii unread.present unread.digits
  have refused := (numeral?_eq_none_iff unread.present).2 unread.unread
  rw [numeral?_of_isDigits written few] at refused
  cases refused

end Text

namespace Placement

open Fallible (bind_eq_ok_iff)
open Text (AllBlank IsAscii IsDigits HasFewDigits valueOf)

variable {line text inside rest group binding behind : Text} {placement : Placement}

/-! ## The tag -/

/-- An attribute up to the parenthesis that opens its arguments, with blanks in front of it and
behind its name. -/
def IsOpening (opening : Text) : Prop :=
  ∃ blanks name gap, opening = blanks ++ '@' :: (name ++ (gap ++ ['('])) ∧ AllBlank blanks ∧
    name ≠ [] ∧ (∀ c ∈ name, Text.isWord c = true) ∧ AllBlank gap

theorem exists_of_openAttribute? (opened : openAttribute? text = some inside) :
    ∃ opening, IsOpening opening ∧ text = opening ++ inside := by
  rw [openAttribute?] at opened
  split at opened
  · next named start =>
    split at opened
    · next worded =>
      split at opened
      · next stop =>
        cases opened
        let blanks := text.takeWhile Text.isBlank
        let name := named.takeWhile Text.isWord
        let gap := (named.dropWhile Text.isWord).takeWhile Text.isBlank
        have present : name ≠ [] := by
          obtain ⟨c, later, rfl⟩ : ∃ c later, named = c :: later := by
            cases named with
            | nil => cases worded
            | cons c later => exact ⟨c, later, rfl⟩
          simp only [name, List.takeWhile_cons_of_pos (show Text.isWord c = true from worded)]
          exact List.cons_ne_nil _ _
        have cutName : named = name ++ (gap ++ '(' :: inside) := by
          rw [← stop, List.takeWhile_append_dropWhile, List.takeWhile_append_dropWhile]
        have cut : text = blanks ++ '@' :: named := by
          rw [← start, List.takeWhile_append_dropWhile]
        refine ⟨blanks ++ '@' :: (name ++ (gap ++ ['('])),
          ⟨blanks, name, gap, rfl, ?_, present, ?_, ?_⟩, ?_⟩
        · exact fun c member => List.mem_takeWhile_imp member
        · exact fun c member => List.mem_takeWhile_imp member
        · exact fun c member => List.mem_takeWhile_imp member
        · rw [cut, cutName]
          simp
      · cases opened
    · cases opened
  · cases opened

theorem openAttribute?_append {opening : Text} (opens : IsOpening opening) (inside : Text) :
    openAttribute? (opening ++ inside) = some inside := by
  obtain ⟨blanks, name, gap, rfl, blank, present, word, apart⟩ := opens
  have spelled : blanks ++ '@' :: (name ++ (gap ++ ['('])) ++ inside =
      blanks ++ '@' :: (name ++ (gap ++ '(' :: inside)) := by
    simp
  have start : (blanks ++ '@' :: (name ++ (gap ++ '(' :: inside))).dropWhile Text.isBlank =
      '@' :: (name ++ (gap ++ '(' :: inside)) :=
    Text.dropWhile_run blank rfl
  have boundary : (gap ++ '(' :: inside).head?.any Text.isWord = false := by
    cases gap with
    | nil => rfl
    | cons c rest => exact Text.isWord_of_isBlank (apart c List.mem_cons_self)
  have behindName : (name ++ (gap ++ '(' :: inside)).dropWhile Text.isWord = gap ++ '(' :: inside :=
    Text.dropWhile_run word boundary
  have behindGap : (gap ++ '(' :: inside).dropWhile Text.isBlank = '(' :: inside :=
    Text.dropWhile_run apart rfl
  have worded : (name ++ (gap ++ '(' :: inside)).head?.any Text.isWord = true := by
    obtain ⟨c, rest, rfl⟩ := List.exists_cons_of_ne_nil present
    exact word c List.mem_cons_self
  rw [spelled, openAttribute?, start]
  simp only [worded, if_true, behindName, behindGap]

/-- The tag is what a first attribute encloses; without one, nothing is taken for a tag. -/
theorem tag_eq_ok_iff {tag? : Option Text} :
    tag line text = .ok (tag?, rest) ↔
      (tag? = none ∧ rest = text ∧
        ∀ opening inside, IsOpening opening → text ≠ opening ++ inside) ∨
      ∃ opening content, IsOpening opening ∧ text = opening ++ (content ++ ')' :: rest) ∧
        ')' ∉ content ∧ tag? = some (Text.trim content) := by
  constructor
  · intro read
    rw [tag] at read
    split at read
    · next absent =>
      cases read
      refine .inl ⟨rfl, rfl, fun opening inside opens spelled => ?_⟩
      rw [spelled, openAttribute?_append opens] at absent
      cases absent
    · next inside opened =>
      obtain ⟨opening, opens, rfl⟩ := exists_of_openAttribute? opened
      split at read
      · cases read
      · next content behind closed =>
        cases read
        obtain ⟨rfl, noClosing⟩ := Text.cutAt?_eq_some_iff.1 closed
        exact .inr ⟨opening, content, opens, rfl, noClosing, rfl⟩
  · rintro (⟨rfl, rfl, absent⟩ | ⟨opening, content, opens, rfl, noClosing, rfl⟩)
    · have none : openAttribute? rest = none := by
        by_contra opened
        obtain ⟨inside, found⟩ := Option.ne_none_iff_exists'.1 opened
        obtain ⟨opening, opens, spelled⟩ := exists_of_openAttribute? found
        exact absent opening inside opens spelled
      rw [tag, none]
    · rw [tag, openAttribute?_append opens]
      simp only [Text.cutAt?_append_cons noClosing]

/-! ## The numbers -/

/-- The text ends with the second of its closed parentheses, and these are the digits that the
first and the second enclose, with blanks around them. -/
structure HasNumbers (front group binding : Text) : Prop where
  spelled : ∃ lead between, front =
      lead ++ '(' :: (group ++ ')' :: (between ++ '(' :: (binding ++ [')']))) ∧
    '(' ∉ lead ∧ ')' ∉ group ∧ '(' ∉ between ∧ ')' ∉ binding
  group : (Text.trim group).IsDigits
  binding : (Text.trim binding).IsDigits

/-- The first or the second parentheses of the line enclose the text. -/
def HasLiteral (line content : Text) : Prop :=
  (∃ behind, FirstEnclosed line content behind) ∨
    ∃ group behindGroup behind, FirstEnclosed line group behindGroup ∧
      FirstEnclosed behindGroup content behind

theorem FirstEnclosed.content_infix {content : Text}
    (enclosed : FirstEnclosed text content behind) : content <:+: text := by
  obtain ⟨before, rfl, -, -⟩ := enclosed
  exact ⟨before ++ ['('], ')' :: behind, by simp⟩

theorem FirstEnclosed.behind_suffix {content : Text}
    (enclosed : FirstEnclosed text content behind) : behind <:+ text := by
  obtain ⟨before, rfl, -, -⟩ := enclosed
  exact ⟨before ++ '(' :: (content ++ [')']), by simp⟩

theorem HasLiteral.isInfix {content : Text} (literal : HasLiteral line content) :
    content <:+: line := by
  rcases literal with ⟨behind, first⟩ | ⟨group, behindGroup, behind, first, second⟩
  · exact first.content_infix
  · exact second.content_infix.trans first.behind_suffix.isInfix

theorem HasLiteral.trim_isAscii {content : Text} (literal : HasLiteral line content)
    (ascii : line.IsAscii) : (Text.trim content).IsAscii := by
  intro c member
  exact ascii c (literal.isInfix.subset ((Text.trim_sublist content).subset member))

/-- In a short line no literal has too many digits. -/
theorem HasLiteral.hasFewDigits {content : Text} (literal : HasLiteral line content)
    (short : line.length ≤ Text.numeralLimit) : (Text.trim content).HasFewDigits :=
  calc (Text.trim content).countP Char.isDigit
    _ ≤ (Text.trim content).length := List.countP_le_length
    _ ≤ content.length := (Text.trim_sublist content).length_le
    _ ≤ line.length := literal.isInfix.length_le
    _ ≤ Text.numeralLimit := short

theorem number_eq_ok_iff {value : Nat} :
    number line text = .ok (value, behind) ↔
      ∃ content, FirstEnclosed text content behind ∧
        Text.numeral? (Text.trim content) = some value := by
  constructor
  · exact number_ok_enclosed
  · rintro ⟨content, enclosed, read⟩
    have numeral := Text.isNumeral_iff.2 (Option.ne_none_iff_exists'.2 ⟨value, read⟩)
    rw [number_of_digits line enclosed numeral.present numeral.isDigit, read]

theorem exists_hasNumbers_iff :
    (∃ front, line = front ++ behind ∧ HasNumbers front group binding) ↔
      ∃ behindGroup, FirstEnclosed line group behindGroup ∧
        FirstEnclosed behindGroup binding behind ∧ (Text.trim group).IsDigits ∧
        (Text.trim binding).IsDigits := by
  constructor
  · rintro ⟨_, rfl, ⟨lead, between, rfl, noFirst, noClosing, noSecond, noLast⟩, first, second⟩
    refine ⟨between ++ '(' :: (binding ++ ')' :: behind), ⟨lead, by simp, noFirst, noClosing⟩,
      ⟨between, rfl, noSecond, noLast⟩, first, second⟩
  · rintro ⟨_, ⟨lead, rfl, noFirst, noClosing⟩, ⟨between, rfl, noSecond, noLast⟩, first, second⟩
    exact ⟨lead ++ '(' :: (group ++ ')' :: (between ++ '(' :: (binding ++ [')']))), by simp,
      ⟨lead, between, rfl, noFirst, noClosing, noSecond, noLast⟩, first, second⟩

theorem ofLine_eq_ok_iff :
    ofLine line = .ok (placement, rest) ↔
      ∃ (groupValue bindingValue : Nat) (tag? : Option Text) (behind : Text),
        (∃ behindGroup, number line line = .ok (groupValue, behindGroup) ∧
          number line behindGroup = .ok (bindingValue, behind)) ∧
        tag line behind = .ok (tag?, rest) ∧ placement = ⟨groupValue, bindingValue, tag?⟩ := by
  constructor
  · intro success
    obtain ⟨⟨groupValue, behindGroup⟩, first, onward⟩ := bind_eq_ok_iff.1 success
    obtain ⟨⟨bindingValue, behind⟩, second, onward⟩ := bind_eq_ok_iff.1 onward
    obtain ⟨⟨tag?, last⟩, tagged, same⟩ := bind_eq_ok_iff.1 onward
    cases same
    exact ⟨groupValue, bindingValue, tag?, behind, ⟨behindGroup, first, second⟩, tagged, rfl⟩
  · rintro ⟨groupValue, bindingValue, tag?, behind, ⟨behindGroup, first, second⟩, tagged, rfl⟩
    exact bind_eq_ok_iff.2 ⟨_, first, bind_eq_ok_iff.2 ⟨_, second,
      bind_eq_ok_iff.2 ⟨_, tagged, rfl⟩⟩⟩

/-! ## Lines of ASCII -/

/-- What an annotation says, and what stands behind it. -/
inductive Annotates : (front : Text) → Placement → (rest : Text) → Prop
  | untagged {numbers group binding rest : Text} (read : HasNumbers numbers group binding)
      (noTag : ∀ opening inside, IsOpening opening → rest ≠ opening ++ inside) :
      Annotates numbers ⟨valueOf (Text.trim group), valueOf (Text.trim binding), none⟩ rest
  | tagged {numbers group binding opening content : Text} (rest : Text)
      (read : HasNumbers numbers group binding) (opens : IsOpening opening)
      (noClosing : ')' ∉ content) :
      Annotates (numbers ++ (opening ++ (content ++ [')'])))
        ⟨valueOf (Text.trim group), valueOf (Text.trim binding), some (Text.trim content)⟩ rest

/-- The first two parentheses of the line enclose digits, and where an attribute opens right behind
them it is closed. -/
def IsAnnotated (line : Text) : Prop :=
  ∃ numbers group binding behind, line = numbers ++ behind ∧ HasNumbers numbers group binding ∧
    ∀ opening inside, IsOpening opening → behind = opening ++ inside → ')' ∈ inside

theorem isAnnotated_iff :
    IsAnnotated line ↔ ∃ front placement rest,
      line = front ++ rest ∧ Annotates front placement rest := by
  constructor
  · rintro ⟨numbers, group, binding, behind, rfl, read, closed⟩
    by_cases tagged : ∃ opening inside, IsOpening opening ∧ behind = opening ++ inside
    · obtain ⟨opening, inside, opens, rfl⟩ := tagged
      obtain ⟨⟨content, rest⟩, cut⟩ := Option.ne_none_iff_exists'.1
        (Text.cutAt?_eq_none_iff.not_left.2 (closed opening inside opens rfl))
      obtain ⟨rfl, noClosing⟩ := Text.cutAt?_eq_some_iff.1 cut
      exact ⟨_, _, rest, by simp, .tagged rest read opens noClosing⟩
    · exact ⟨numbers, _, behind, rfl, .untagged read fun opening inside opens spelled =>
        tagged ⟨opening, inside, opens, spelled⟩⟩
  · rintro ⟨_, _, rest, rfl, annotates⟩
    cases annotates with
    | untagged read noTag =>
      exact ⟨_, _, _, rest, rfl, read, fun opening inside opens spelled =>
        absurd spelled (noTag opening inside opens)⟩
    | @tagged numbers group binding opening content _ read opens noClosing =>
      refine ⟨numbers, group, binding, opening ++ (content ++ ')' :: rest), by simp, read, ?_⟩
      intro other inside opensToo spelled
      have found := openAttribute?_append opens (content ++ ')' :: rest)
      rw [spelled, openAttribute?_append opensToo] at found
      rw [Option.some.inj found]
      simp

section

variable (ascii : line.IsAscii)
  (few : ∀ content, HasLiteral line content → (Text.trim content).HasFewDigits)

include ascii few

theorem numbers_eq_ok_iff {groupValue bindingValue : Nat} :
    (∃ behindGroup, number line line = .ok (groupValue, behindGroup) ∧
        number line behindGroup = .ok (bindingValue, behind)) ↔
      ∃ front group binding, line = front ++ behind ∧ HasNumbers front group binding ∧
        groupValue = valueOf (Text.trim group) ∧ bindingValue = valueOf (Text.trim binding) := by
  have numeral {content : Text} {value : Nat} (literal : HasLiteral line content) :
      Text.numeral? (Text.trim content) = some value ↔
        (Text.trim content).IsDigits ∧ valueOf (Text.trim content) = value :=
    Text.numeral?_eq_some_iff (literal.trim_isAscii ascii) (few content literal)
  constructor
  · rintro ⟨behindGroup, first, second⟩
    obtain ⟨group, enclosed, read⟩ := number_eq_ok_iff.1 first
    obtain ⟨binding, enclosedNext, readNext⟩ := number_eq_ok_iff.1 second
    obtain ⟨groupDigits, groupValue⟩ := (numeral (.inl ⟨_, enclosed⟩)).1 read
    obtain ⟨bindingDigits, bindingValue⟩ :=
      (numeral (.inr ⟨_, _, _, enclosed, enclosedNext⟩)).1 readNext
    obtain ⟨front, spelled, numbers⟩ := exists_hasNumbers_iff.2
      ⟨behindGroup, enclosed, enclosedNext, groupDigits, bindingDigits⟩
    exact ⟨front, group, binding, spelled, numbers, groupValue.symm, bindingValue.symm⟩
  · rintro ⟨front, group, binding, spelled, numbers, rfl, rfl⟩
    obtain ⟨behindGroup, enclosed, enclosedNext, groupDigits, bindingDigits⟩ :=
      exists_hasNumbers_iff.1 ⟨front, spelled, numbers⟩
    refine ⟨behindGroup, number_eq_ok_iff.2 ⟨group, enclosed, ?_⟩,
      number_eq_ok_iff.2 ⟨binding, enclosedNext, ?_⟩⟩
    · exact (numeral (.inl ⟨_, enclosed⟩)).2 ⟨groupDigits, rfl⟩
    · exact (numeral (.inr ⟨_, _, _, enclosed, enclosedNext⟩)).2 ⟨bindingDigits, rfl⟩

theorem ofLine_eq_ok_iff_annotates :
    ofLine line = .ok (placement, rest) ↔
      ∃ front, line = front ++ rest ∧ Annotates front placement rest := by
  rw [ofLine_eq_ok_iff]
  constructor
  · rintro ⟨_, _, tag?, behind, both, tagged, rfl⟩
    obtain ⟨front, group, binding, spelled, numbers, rfl, rfl⟩ :=
      (numbers_eq_ok_iff ascii few).1 both
    rcases tag_eq_ok_iff.1 tagged with
      ⟨rfl, rfl, noTag⟩ | ⟨opening, content, opens, rfl, noClosing, rfl⟩
    · exact ⟨front, spelled, .untagged numbers noTag⟩
    · exact ⟨_, by simp [spelled], .tagged rest numbers opens noClosing⟩
  · rintro ⟨front, spelled, annotates⟩
    cases annotates with
    | @untagged _ group binding _ numbers noTag =>
      exact ⟨_, _, none, rest,
        (numbers_eq_ok_iff ascii few).2 ⟨front, group, binding, spelled, numbers, rfl, rfl⟩,
        tag_eq_ok_iff.2 (.inl ⟨rfl, rfl, noTag⟩), rfl⟩
    | @tagged front group binding opening content _ numbers opens noClosing =>
      have spelled : line = front ++ (opening ++ (content ++ ')' :: rest)) := by simp [spelled]
      exact ⟨_, _, some (Text.trim content), opening ++ (content ++ ')' :: rest),
        (numbers_eq_ok_iff ascii few).2 ⟨front, group, binding, spelled, numbers, rfl, rfl⟩,
        tag_eq_ok_iff.2 (.inr ⟨opening, content, opens, rfl, noClosing, rfl⟩), rfl⟩

theorem not_hasUnreadNumber : ¬HasUnreadNumber line := by
  rintro ⟨content, behind, enclosed, group | ⟨-, other, last, next, binding⟩⟩
  · have literal : HasLiteral line content := .inl ⟨_, enclosed⟩
    exact Text.not_isUnread (literal.trim_isAscii ascii) (few _ literal) group
  · have literal : HasLiteral line other := .inr ⟨_, _, _, enclosed, next⟩
    exact Text.not_isUnread (literal.trim_isAscii ascii) (few _ literal) binding

end

/-- Of the lines of ASCII characters whose numbers are not too long, those are read as an annotation
whose first two parentheses enclose digits and in which an attribute right behind them is closed.
The annotation says what these write in decimal and what the attribute encloses, and ends with the
last parenthesis of them; nothing of the line is lost or read twice. All other lines are refused. -/
theorem ofLine_of_ascii (ascii : line.IsAscii)
    (few : ∀ content, HasLiteral line content → (Text.trim content).HasFewDigits) :
    ((∃ found, ofLine line = .ok found) ↔ IsAnnotated line) ∧
      (∀ placement rest, ofLine line = .ok (placement, rest) ↔
        ∃ front, line = front ++ rest ∧ Annotates front placement rest) ∧
      (¬IsAnnotated line → ∃ fault, ofLine line = .error (.badPlacement line fault)) := by
  have read (placement : Placement) (rest : Text) :
      ofLine line = .ok (placement, rest) ↔
        ∃ front, line = front ++ rest ∧ Annotates front placement rest :=
    ofLine_eq_ok_iff_annotates ascii few
  have succeeds : (∃ found, ofLine line = .ok found) ↔ IsAnnotated line := by
    rw [isAnnotated_iff]
    constructor
    · rintro ⟨⟨placement, rest⟩, success⟩
      obtain ⟨front, found⟩ := (read placement rest).1 success
      exact ⟨front, placement, rest, found⟩
    · rintro ⟨front, placement, rest, found⟩
      exact ⟨_, (read placement rest).2 ⟨front, found⟩⟩
  refine ⟨succeeds, read, fun bare => ?_⟩
  cases result : ofLine line with
  | ok found => exact absurd (succeeds.1 ⟨found, result⟩) bare
  | error reason =>
    obtain ⟨fault, rfl⟩ := ofLine_failsAs_badPlacement (not_hasUnreadNumber ascii few) reason result
    exact ⟨fault, rfl⟩

/-- A tag with blanks around all of its parts, and a declaration with parentheses of its own. -/
def shadeLine : Text := "@group( 07 )@binding(12)\t@push_constant (fs | frag ) shade: vec4<f32>(x)"

theorem ofLine_of_ascii_shade :
    shadeLine.IsAscii ∧
    (∀ content, HasLiteral shadeLine content → (Text.trim content).HasFewDigits) ∧
    (((∃ found, ofLine shadeLine = .ok found) ↔ IsAnnotated shadeLine) ∧
      (∀ placement rest, ofLine shadeLine = .ok (placement, rest) ↔
        ∃ front, shadeLine = front ++ rest ∧ Annotates front placement rest) ∧
      (¬IsAnnotated shadeLine →
        ∃ fault, ofLine shadeLine = .error (.badPlacement shadeLine fault))) ∧
    ofLine shadeLine = .ok (⟨7, 12, some "fs | frag"⟩, " shade: vec4<f32>(x)") := by
  have ascii : shadeLine.IsAscii := by decide +kernel
  have short : shadeLine.length ≤ Text.numeralLimit := by decide +kernel
  have few : ∀ content, HasLiteral shadeLine content → (Text.trim content).HasFewDigits :=
    fun _ literal => literal.hasFewDigits short
  exact ⟨ascii, few, ofLine_of_ascii ascii few, by decide +kernel⟩

end Placement
end ShaderInterface
