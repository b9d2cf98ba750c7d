import ShaderInterface.Proofs.Declaration.Steps

set_option autoImplicit false

namespace ShaderInterface

namespace Text

theorem cutAt?_eq_some_iff {mark : Char} {text left right : Text} :
    cutAt? mark text = some (left, right) ↔ text = left ++ mark :: right ∧ mark ∉ left := by
  constructor
  · intro found
    refine ⟨cutAt?_eq_some_append found, ?_⟩
    induction text generalizing left with
    | nil => cases found
    | cons c rest ih =>
      rw [cutAt?] at found
      split at found
      · obtain ⟨rfl, rfl⟩ := Prod.mk.inj (Option.some.inj found)
        exact List.not_mem_nil
      · next other =>
        obtain ⟨⟨before, behind⟩, inner, rebuilt⟩ := Option.map_eq_some_iff.1 found
        obtain ⟨rfl, rfl⟩ := Prod.mk.inj rebuilt
        rw [List.mem_cons, not_or]
        exact ⟨fun same => other same.symm, ih inner⟩
  · rintro ⟨rfl, absent⟩
    exact cutAt?_append_cons absent right

structure IsNumeral (literal : Text) : Prop where
  present : literal ≠ []
  short : literal.length ≤ numeralLimit
  decimal : ∀ c ∈ literal, digitValue? c ≠ none

theorem IsUnread.present {literal : Text} (unread : literal.IsUnread) : literal ≠ [] := by
  rintro rfl
  rcases unread.unread with long | ⟨c, inside, -⟩
  · exact absurd long (Nat.not_lt_zero _)
  · exact List.not_mem_nil inside

theorem IsNumeral.isDigit {literal : Text} (numeral : literal.IsNumeral) :
    ∀ c ∈ literal, isDigit c = true := by
  intro c inside
  rw [Text.isDigit, Option.isSome_iff_ne_none.2 (numeral.decimal c inside), Bool.true_or]

theorem isNumeral_iff {literal : Text} : literal.IsNumeral ↔ numeral? literal ≠ none := by
  by_cases present : literal = []
  · subst present
    exact iff_of_false (fun numeral => numeral.present rfl) fun read => read rfl
  · rw [Ne, numeral?_eq_none_iff present, not_or, not_lt, not_exists]
    constructor
    · exact fun numeral => ⟨numeral.short, fun c missing => numeral.decimal c missing.1 missing.2⟩
    · intro ⟨short, decimal⟩
      exact ⟨present, short, fun c inside missing => decimal c ⟨inside, missing⟩⟩

end Text

namespace Placement

open Fallible (FailsAs bind_eq_error_iff)

variable {line text content behind : Text}

/-- The first opening parenthesis of `text` encloses `content`, up to the nearest closing one, and
`behind` stands behind it. -/
def FirstEnclosed (text content behind : Text) : Prop :=
  ∃ before, text = before ++ '(' :: (content ++ ')' :: behind) ∧ '(' ∉ before ∧ ')' ∉ content

/-- What reading a number from the first parentheses of `text` comes to. -/
inductive NumberRead (line text : Text) : Except ShaderError (Nat × Text) → Prop where
  | missing (noOpening : '(' ∉ text) :
      NumberRead line text (.error (.badPlacement line .incomplete))
  | unterminated {before inside : Text} (spelled : text = before ++ '(' :: inside)
      (noOpening : '(' ∉ before) (noClosing : ')' ∉ inside) :
      NumberRead line text (.error (.badPlacement line .unterminated))
  | refused {content behind : Text} (enclosed : FirstEnclosed text content behind)
      (noDigits : Text.trim content = [] ∨ ∃ c ∈ Text.trim content, Text.isDigit c = false) :
      NumberRead line text (.error (.badPlacement line (.notUnsigned (Text.trim content))))
  | unread {content behind : Text} (enclosed : FirstEnclosed text content behind)
      (unread : (Text.trim content).IsUnread) :
      NumberRead line text (.error (.unreadableNumber (Text.trim content)))
  | read {content behind : Text} {value : Nat} (enclosed : FirstEnclosed text content behind)
      (value_eq : Text.numeral? (Text.trim content) = some value) :
      NumberRead line text (.ok (value, behind))

theorem number_read (line text : Text) : NumberRead line text (number line text) := by
  rw [number]
  split
  · next missing => exact .missing (Text.cutAt?_eq_none_iff.1 missing)
  · next before inside opened =>
    obtain ⟨rfl, noOpening⟩ := Text.cutAt?_eq_some_iff.1 opened
    split
    · next unclosed => exact .unterminated rfl noOpening (Text.cutAt?_eq_none_iff.1 unclosed)
    · next content behind closed =>
      obtain ⟨rfl, noClosing⟩ := Text.cutAt?_eq_some_iff.1 closed
      have enclosed : FirstEnclosed _ content behind := ⟨before, rfl, noOpening, noClosing⟩
      simp only
      split
      · next noDigits =>
        refine .refused enclosed (noDigits.imp_right fun notAll => ?_)
        simpa using notAll
      · next digits =>
        rw [not_or, Bool.not_eq_true, Bool.not_eq_false', List.all_eq_true] at digits
        split
        · next refused =>
          exact .unread enclosed ⟨digits.2, (Text.numeral?_eq_none_iff digits.1).1 refused⟩
        · next value value_eq => exact .read enclosed value_eq

/-- The group, or the binding behind a group, has digits that are not read as a number. -/
def HasUnreadNumber (line : Text) : Prop :=
  ∃ content behind, FirstEnclosed line content behind ∧
    ((Text.trim content).IsUnread ∨
      (Text.trim content).IsNumeral ∧
        ∃ other rest, FirstEnclosed behind other rest ∧ (Text.trim other).IsUnread)

/-- Digits are read as a number, or end the reading. -/
theorem number_of_digits (line : Text) (enclosed : FirstEnclosed text content behind)
    (present : Text.trim content ≠ []) (digits : ∀ c ∈ Text.trim content, Text.isDigit c = true) :
    number line text = match Text.numeral? (Text.trim content) with
      | none => .error (.unreadableNumber (Text.trim content))
      | some value => .ok (value, behind) := by
  obtain ⟨before, rfl, noOpening, noClosing⟩ := enclosed
  have all : ¬(Text.trim content = [] ∨ !(Text.trim content).all Text.isDigit) := by
    simpa [present] using digits
  cases read : Text.numeral? (Text.trim content) <;>
    simp only [number, Text.cutAt?_append_cons noOpening, Text.cutAt?_append_cons noClosing,
      if_neg all, read]

theorem number_of_isUnread (line : Text) (enclosed : FirstEnclosed text content behind)
    (unread : (Text.trim content).IsUnread) :
    number line text = .error (.unreadableNumber (Text.trim content)) := by
  rw [number_of_digits line enclosed unread.present unread.digits,
    (Text.numeral?_eq_none_iff unread.present).2 unread.unread]

theorem number_of_isNumeral (line : Text) (enclosed : FirstEnclosed text content behind)
    (numeral : (Text.trim content).IsNumeral) :
    ∃ value, number line text = .ok (value, behind) := by
  obtain ⟨value, value_eq⟩ := Option.ne_none_iff_exists'.1 (Text.isNumeral_iff.1 numeral)
  refine ⟨value, ?_⟩
  rw [number_of_digits line enclosed numeral.present numeral.isDigit, value_eq]

theorem number_ok_enclosed {value : Nat} (read : number line text = .ok (value, behind)) :
    ∃ content, FirstEnclosed text content behind ∧
      Text.numeral? (Text.trim content) = some value := by
  have outcome := number_read line text
  rw [read] at outcome
  cases outcome with
  | read enclosed value_eq => exact ⟨_, enclosed, value_eq⟩

theorem number_error_cases {reason : ShaderError} (failed : number line text = .error reason) :
    (∃ fault, reason = .badPlacement line fault) ∨
      ∃ content behind, FirstEnclosed text content behind ∧ (Text.trim content).IsUnread := by
  have outcome := number_read line text
  rw [failed] at outcome
  cases outcome with
  | missing | unterminated | refused => exact .inl ⟨_, rfl⟩
  | unread enclosed unread => exact .inr ⟨_, _, enclosed, unread⟩

theorem tag_failsAs_badPlacement :
    FailsAs (fun reason => ∃ fault, reason = .badPlacement line fault) (tag line text) := by
  rw [tag]
  split
  · exact .ok _
  · split
    · exact .error ⟨_, rfl⟩
    · exact .ok _

theorem ofLine_of_hasUnreadNumber (unread : HasUnreadNumber line) :
    ∃ literal, literal.IsUnread ∧ ofLine line = .error (.unreadableNumber literal) := by
  obtain ⟨content, behind, enclosed, group | ⟨numeral, other, rest, next, binding⟩⟩ := unread
  · exact ⟨_, group, bind_eq_error_iff.2 (.inl (number_of_isUnread line enclosed group))⟩
  · obtain ⟨value, read⟩ := number_of_isNumeral line enclosed numeral
    refine ⟨_, binding, bind_eq_error_iff.2 (.inr ⟨_, read, ?_⟩)⟩
    exact bind_eq_error_iff.2 (.inl (number_of_isUnread line next binding))

theorem ofLine_failsAs_badPlacement (readable : ¬HasUnreadNumber line) :
    FailsAs (fun reason => ∃ fault, reason = .badPlacement line fault) (ofLine line) := by
  intro reason failed
  rcases bind_eq_error_iff.1 failed with group | ⟨⟨value, behind⟩, group, onward⟩
  · refine (number_error_cases group).resolve_right ?_
    rintro ⟨content, behind, enclosed, unread⟩
    exact readable ⟨content, behind, enclosed, .inl unread⟩
  obtain ⟨content, enclosed, value_eq⟩ := number_ok_enclosed group
  have numeral := Text.isNumeral_iff.2 (Option.ne_none_iff_exists'.2 ⟨value, value_eq⟩)
  rcases bind_eq_error_iff.1 onward with binding | ⟨⟨_, rest⟩, -, behindNumbers⟩
  · refine (number_error_cases binding).resolve_right ?_
    rintro ⟨other, rest, next, unread⟩
    exact readable ⟨content, behind, enclosed, .inr ⟨numeral, other, rest, next, unread⟩⟩
  · rcases bind_eq_error_iff.1 behindNumbers with tagged | ⟨_, -, done⟩
    · exact tag_failsAs_badPlacement reason tagged
    · cases done

/-- The annotation of a line is read, or refused with an error of the line, exactly when its group
and its binding are not digits that cannot be read; those end the reading with an error of
another sort. -/
theorem ofLine_answers (line : Text) :
    (((∃ found, ofLine line = .ok found) ∨
        ∃ fault, ofLine line = .error (.badPlacement line fault)) ↔ ¬HasUnreadNumber line) ∧
      (HasUnreadNumber line →
        ∃ literal, literal.IsUnread ∧ ofLine line = .error (.unreadableNumber literal)) := by
  refine ⟨⟨?_, fun readable => ?_⟩, ofLine_of_hasUnreadNumber⟩
  · intro answered unread
    obtain ⟨literal, -, failed⟩ := ofLine_of_hasUnreadNumber unread
    rw [failed] at answered
    rcases answered with ⟨found, read⟩ | ⟨fault, refused⟩
    · cases read
    · cases refused
  · cases result : ofLine line with
    | ok found => exact .inl ⟨found, rfl⟩
    | error reason =>
      obtain ⟨fault, rfl⟩ := ofLine_failsAs_badPlacement readable reason result
      exact .inr ⟨fault, rfl⟩

/-- A superscript two is a digit, but no number. -/
theorem ofLine_superscript :
    ¬((∃ found, ofLine "@group(²) @binding(0) var<uniform> lamp: f32" = .ok found) ∨
      ∃ fault, ofLine "@group(²) @binding(0) var<uniform> lamp: f32" =
        .error (.badPlacement "@group(²) @binding(0) var<uniform> lamp: f32" fault)) := by
  have failed : ofLine "@group(²) @binding(0) var<uniform> lamp: f32" =
      .error (.unreadableNumber "²") := by decide +kernel
  rw [failed]
  rintro (⟨found, read⟩ | ⟨fault, refused⟩)
  · cases read
  · cases refused

end Placement
end ShaderInterface
