import ShaderInterface.Brackets

set_option autoImplicit false

namespace ShaderInterface.Brackets

variable {text left right : Text}

/-- The search for a closing parenthesis passes over the text, however many are open. -/
def Passes (text : Text) : Prop :=
  ∀ depth rest, closeParenthesis? depth (text ++ rest) =
    (closeParenthesis? depth rest).map fun cut => (text ++ cut.1, cut.2)

theorem Passes.nil : Passes [] := by
  intro depth rest
  rw [List.nil_append]
  cases closeParenthesis? depth rest <;> rfl

theorem Passes.append (first : Passes left) (second : Passes right) : Passes (left ++ right) := by
  intro depth rest
  rw [List.append_assoc, first, second, Option.map_map]
  simp [Function.comp_def]

theorem Passes.of_plain (plain : ∀ c ∈ text, c ≠ '(' ∧ c ≠ ')') : Passes text := by
  induction text with
  | nil => exact .nil
  | cons c rest ih =>
    obtain ⟨⟨noOpening, noClosing⟩, later⟩ := List.forall_mem_cons.1 plain
    intro depth behind
    rw [List.cons_append, closeParenthesis?, if_neg (by simp [noClosing])]
    simp only [if_neg noOpening, if_neg noClosing]
    rw [ih later, Option.map_map]
    rfl

/-- What is passed over can be put in parentheses. -/
theorem Passes.enclose (inside : Passes text) : Passes ('(' :: (text ++ [')'])) := by
  intro depth rest
  have closed : closeParenthesis? (depth + 1) (')' :: rest) =
      (closeParenthesis? depth rest).map fun cut => (')' :: cut.1, cut.2) := by
    rw [closeParenthesis?, if_neg (by simp)]
    rfl
  rw [List.cons_append, closeParenthesis?, if_neg (by simp)]
  simp only [if_true]
  rw [List.append_assoc, inside, List.singleton_append, closed, Option.map_map, Option.map_map]
  simp [Function.comp_def]

theorem Passes.closeParenthesis? (passes : Passes text) (behind : Text) :
    closeParenthesis? 0 (text ++ ')' :: behind) = some (text, behind) := by
  rw [passes, Brackets.closeParenthesis?, if_pos ⟨rfl, rfl⟩, Option.map_some, List.append_nil]

end ShaderInterface.Brackets
