import ShaderInterface.Text.Basic

set_option autoImplicit false

namespace ShaderInterface.Text

/-- White space, line ends and the information separators. -/
def isBlank (c : Char) : Bool :=
  let code := c.toNat
  decide (0x09 ≤ code ∧ code ≤ 0x0d) || decide (0x1c ≤ code ∧ code ≤ 0x20) ||
  code == 0x85 || code == 0xa0 || code == 0x1680 ||
  decide (0x2000 ≤ code ∧ code ≤ 0x200a) || code == 0x2028 || code == 0x2029 ||
  code == 0x202f || code == 0x205f || code == 0x3000

/-- `text` without the blanks at its ends. -/
def trim (text : Text) : Text := trimWhile isBlank text

/-- `text` without any blank. -/
def squeeze (text : Text) : Text := text.filter fun c => !isBlank c

/-- The maximal runs of `text` that hold no blank. -/
def words (text : Text) : List Text := (text.splitOnP isBlank).filter fun word => !word.isEmpty

theorem isBlank_of_isWhitespace {c : Char} (white : c.isWhitespace = true) :
    isBlank c = true := by
  simp only [Char.isWhitespace, Bool.or_eq_true, decide_eq_true_eq] at white
  rcases white with ((rfl | rfl) | rfl) | rfl <;> decide

theorem isBlank_eq_false_of_mem_squeeze {c : Char} {text : Text} (kept : c ∈ squeeze text) :
    isBlank c = false := by
  simpa using (List.mem_filter.1 kept).2

theorem squeeze_squeeze (text : Text) : squeeze (squeeze text) = squeeze text := by
  simp [squeeze]

end ShaderInterface.Text
