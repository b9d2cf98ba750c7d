import ShaderInterface.Brackets
import ShaderInterface.Proofs.Text.Names

set_option autoImplicit false

namespace ShaderInterface.Brackets

variable {separator : Char} {depth : Nat} {text left right : Text}

theorem step_of_plain {c : Char} (plain : isBracket c = false) (depth : Nat) :
    step depth c = depth := by
  simp only [isBracket, Bool.or_eq_false_iff, beq_eq_false_iff_ne] at plain
  simp [step, plain]

/-- A separator in front of which no bracket is left open divides a text: its pieces are those in
front of the separator, then those behind it. The brackets need not match, as closers at depth zero
do nothing. -/
theorem piecesFrom_append_cons (plain : isBracket separator = false)
    (level : depthAfter depth left = 0) (right : Text) :
    piecesFrom (some separator) depth (left ++ separator :: right) =
      piecesFrom (some separator) depth left ++ piecesFrom (some separator) 0 right := by
  induction left generalizing depth with
  | nil =>
    obtain rfl : depth = 0 := level
    simp [piecesFrom, plain]
  | cons c rest ih =>
    rw [depthAfter_cons] at level
    rw [List.cons_append, piecesFrom, piecesFrom]
    split
    · next divides =>
      obtain ⟨-, rfl, free⟩ := divides
      rw [step_of_plain (by simpa using free)] at level
      rw [ih level, List.cons_append]
    · -- the character joins the first piece, which is one of those in front of the separator
      obtain ⟨first, others, cut⟩ := List.exists_cons_of_ne_nil
        (piecesFrom_ne_nil (some separator) (step depth c) rest)
      rw [ih level, cut, List.cons_append, List.modifyHead_cons, List.modifyHead_cons,
        List.cons_append]

/-- A text is one piece if its first character does not divide it and the rest is one piece, and
only then. -/
theorem piecesFrom_cons_eq_self_iff {c : Char} :
    piecesFrom (some separator) depth (c :: text) = [c :: text] ↔
      ¬(some separator = some c ∧ depth = 0 ∧ !isBracket c) ∧
        piecesFrom (some separator) (step depth c) text = [text] := by
  rw [piecesFrom]
  split
  · next divides => simp [divides]
  · next joined =>
    obtain ⟨first, others, cut⟩ := List.exists_cons_of_ne_nil
      (piecesFrom_ne_nil (some separator) (step depth c) text)
    rw [and_iff_right joined, cut]
    simp

/-- Behind a text that is one piece so far, the cut goes on with the depth reached there. -/
theorem piecesFrom_append (whole : piecesFrom (some separator) depth left = [left]) (right : Text) :
    piecesFrom (some separator) depth (left ++ right) =
      (piecesFrom (some separator) (depthAfter depth left) right).modifyHead (left ++ ·) := by
  induction left generalizing depth with
  | nil =>
    rw [List.nil_append, depthAfter_nil]
    cases piecesFrom (some separator) depth right <;> rfl
  | cons c rest ih =>
    obtain ⟨joined, onward⟩ := piecesFrom_cons_eq_self_iff.1 whole
    rw [List.cons_append, piecesFrom, if_neg joined, ih onward, List.modifyHead_modifyHead,
      depthAfter_cons]
    rfl

/-- The text has every bracket closed, and is one piece. -/
structure Undivided (separator : Char) (text : Text) : Prop where
  whole : piecesFrom (some separator) 0 text = [text]
  level : depthAfter 0 text = 0

theorem Undivided.append (first : Undivided separator left) (second : Undivided separator right) :
    Undivided separator (left ++ right) := by
  constructor
  · rw [piecesFrom_append first.whole, first.level, second.whole]
    rfl
  · rw [depthAfter_append, first.level, second.level]

/-- A text without brackets and separators is one piece. -/
theorem Undivided.of_plain (plain : ∀ c ∈ text, isBracket c = false ∧ c ≠ separator) :
    Undivided separator text := by
  induction text with
  | nil => exact ⟨rfl, rfl⟩
  | cons c rest ih =>
    obtain ⟨free, other⟩ := plain c (by simp)
    have onward := ih fun d member => plain d (by simp [member])
    constructor
    · refine piecesFrom_cons_eq_self_iff.2 ⟨by simp [Ne.symm other], ?_⟩
      rw [step_of_plain free, onward.whole]
    · rw [depthAfter_cons, step_of_plain free, onward.level]

/-- Characters among which there are no brackets and no comma make no pieces. -/
theorem Undivided.of_chars {allowed : Char → Bool} (chars : ∀ c ∈ text, allowed c = true)
    (excluded : "<>(),".toList.all (fun mark => !allowed mark) = true) : Undivided ',' text := by
  apply of_plain
  intro c member
  have apart : ∀ mark ∈ "<>(),".toList, c ≠ mark := by
    rintro mark among rfl
    have outside : allowed c = false := by simpa using List.all_eq_true.1 excluded c among
    rw [chars c member] at outside
    cases outside
  simp only [isBracket, Bool.or_eq_false_iff, beq_eq_false_iff_ne]
  exact ⟨⟨⟨⟨apart '<' (by decide), apart '(' (by decide)⟩, apart '>' (by decide)⟩,
    apart ')' (by decide)⟩, apart ',' (by decide)⟩

/-- A separator behind such a text ends a piece. -/
theorem Undivided.pieces_append_cons (first : Undivided separator left)
    (free : isBracket separator = false) (right : Text) :
    pieces (some separator) (left ++ separator :: right) =
      left :: pieces (some separator) right := by
  rw [pieces, piecesFrom_append_cons free first.level, first.whole]
  rfl

end ShaderInterface.Brackets

namespace ShaderInterface.Text

open Brackets (depthAfter piecesFrom step)

variable {text : Text} {c : Char} {depth : Nat}

/-- Whether `text` ends a type with `depth` angle brackets open: characters of names, angle brackets
that are balanced, and commas inside them. -/
def endsType (depth : Nat) : Text → Bool
  | [] => depth == 0
  | c :: rest =>
      if c = '<' then endsType (depth + 1) rest
      else if c = '>' then decide (0 < depth) && endsType (depth - 1) rest
      else if c = ',' then decide (0 < depth) && endsType depth rest
      else isNameChar c && endsType depth rest

/-- A character of a type. -/
def isTypeChar (c : Char) : Bool := isNameChar c || c == '<' || c == '>' || c == ','

theorem endsType_cons (ends : endsType depth (c :: text) = true) :
    isTypeChar c = true ∧ (c = ',' → 0 < depth) ∧ endsType (step depth c) text = true := by
  rw [endsType] at ends
  split at ends
  · next opening =>
    subst opening
    exact ⟨by decide, by simp, ends⟩
  · split at ends
    · next closing =>
      subst closing
      have inside : 0 < depth ∧ endsType (depth - 1) text = true := by simpa using ends
      exact ⟨by decide, by simp, inside.2⟩
    · split at ends
      · next comma =>
        subst comma
        have inside : 0 < depth ∧ endsType depth text = true := by simpa using ends
        exact ⟨by decide, fun _ => inside.1, inside.2⟩
      · next noOpening noClosing noComma =>
        have plain : isNameChar c = true ∧ endsType depth text = true := by simpa using ends
        have round : c ≠ '(' ∧ c ≠ ')' := by
          constructor <;>
            · intro same
              rw [same] at plain
              exact absurd plain.1 (by decide)
        have still : step depth c = depth := by simp [step, noOpening, noClosing, round]
        refine ⟨by simp [isTypeChar, plain.1], fun comma => absurd comma noComma, ?_⟩
        rw [still]
        exact plain.2

theorem isTypeChar_of_endsType (ends : endsType depth text = true) :
    ∀ c ∈ text, isTypeChar c = true := by
  induction text generalizing depth with
  | nil => simp
  | cons c rest ih =>
    obtain ⟨first, -, onward⟩ := endsType_cons ends
    intro d member
    rcases List.mem_cons.1 member with rfl | later
    · exact first
    · exact ih onward d later

theorem level_of_endsType (ends : endsType depth text = true) : depthAfter depth text = 0 := by
  induction text generalizing depth with
  | nil => simpa [endsType] using ends
  | cons c rest ih => exact ih (endsType_cons ends).2.2

theorem whole_of_endsType (ends : endsType depth text = true) :
    piecesFrom (some ',') depth text = [text] := by
  induction text generalizing depth with
  | nil => rfl
  | cons c rest ih =>
    obtain ⟨-, comma, onward⟩ := endsType_cons ends
    have joined : ¬(some ',' = some c ∧ depth = 0 ∧ !Brackets.isBracket c) := by
      rintro ⟨same, outside, -⟩
      have inside := comma (Option.some.inj same).symm
      omega
    exact Brackets.piecesFrom_cons_eq_self_iff.2 ⟨joined, ih onward⟩

/-- A type never ends with a comma. -/
theorem getLast?_of_endsType (ends : endsType depth text = true) :
    text.getLast?.any (· == ',') = false := by
  induction text generalizing depth with
  | nil => rfl
  | cons c rest ih =>
    obtain ⟨-, comma, onward⟩ := endsType_cons ends
    cases rest with
    | nil =>
      have closed : step depth c = 0 := level_of_endsType onward
      have other : c ≠ ',' := by
        rintro rfl
        have inside := comma rfl
        simp [step] at closed
        omega
      simpa using other
    | cons d later =>
      rw [List.getLast?_cons_cons]
      exact ih onward

theorem undivided_of_endsType (ends : endsType 0 text = true) : Brackets.Undivided ',' text :=
  ⟨whole_of_endsType ends, level_of_endsType ends⟩

end ShaderInterface.Text
