import ShaderInterface.Text.Blank
import ShaderInterface.Text.Word

set_option autoImplicit false

namespace ShaderInterface.Attribute

/-- `text` without the arguments that it starts with, if any. -/
def dropArguments : Text → Text
  | '(' :: inside =>
      match Text.cutAt? ')' inside with
      | some cut => cut.2
      | none => '(' :: inside
  | text => text

/-- `text` without the attribute name, blanks and arguments that it starts with. -/
def dropBody (text : Text) : Text :=
  dropArguments ((text.dropWhile Text.isWord).dropWhile Text.isBlank)

theorem length_dropArguments_le (text : Text) : (dropArguments text).length ≤ text.length := by
  unfold dropArguments
  split
  · split
    · next inside _ cut found =>
      have rebuilt := congrArg List.length (Text.cutAt?_eq_some_append found)
      simp only [List.length_append, List.length_cons] at rebuilt ⊢
      omega
    · exact Nat.le_refl _
  · exact Nat.le_refl _

theorem length_dropBody_le (text : Text) : (dropBody text).length ≤ text.length :=
  calc (dropBody text).length
    _ ≤ ((text.dropWhile Text.isWord).dropWhile Text.isBlank).length := length_dropArguments_le _
    _ ≤ (text.dropWhile Text.isWord).length := (List.dropWhile_suffix _).length_le
    _ ≤ text.length := (List.dropWhile_suffix _).length_le

/-- `text` without its attributes. An at sign without a name stays. -/
def strip : Text → Text
  | [] => []
  | c :: rest =>
      if c = '@' ∧ rest.head?.any Text.isWord then strip (dropBody rest) else c :: strip rest
termination_by text => text.length
decreasing_by
  · have := length_dropBody_le rest
    simp only [List.length_cons]
    omega
  · simp

end ShaderInterface.Attribute
