import ShaderInterface.Text.Basic

set_option autoImplicit false

namespace ShaderInterface.Brackets

def isBracket (c : Char) : Bool := c == '<' || c == '(' || c == '>' || c == ')'

def step (depth : Nat) (c : Char) : Nat :=
  if c = '<' ∨ c = '(' then depth + 1
  else if c = '>' ∨ c = ')' then depth - 1
  else depth

def depthAfter (depth : Nat) (text : Text) : Nat := text.foldl step depth

def piecesFrom (separator : Option Char) : (depth : Nat) → Text → List Text
  | _, [] => [[]]
  | depth, c :: rest =>
      if separator = some c ∧ depth = 0 ∧ !isBracket c then [] :: piecesFrom separator 0 rest
      else (piecesFrom separator (step depth c) rest).modifyHead (c :: ·)

/-- The pieces between the separators at depth zero. Without a separator the text is one piece. -/
def pieces (separator : Option Char) (text : Text) : List Text := piecesFrom separator 0 text

/-- The texts inside and behind a parenthesis that is already open, with `depth` more open in it. -/
def closeParenthesis? : (depth : Nat) → Text → Option (Text × Text)
  | _, [] => none
  | depth, c :: rest =>
      if c = ')' ∧ depth = 0 then some ([], rest)
      else
        let next := if c = '(' then depth + 1 else if c = ')' then depth - 1 else depth
        (closeParenthesis? next rest).map fun cut => (c :: cut.1, cut.2)

@[simp] theorem depthAfter_nil (depth : Nat) : depthAfter depth [] = depth := rfl

@[simp] theorem depthAfter_cons (depth : Nat) (c : Char) (rest : Text) :
    depthAfter depth (c :: rest) = depthAfter (step depth c) rest := rfl

theorem depthAfter_append (depth : Nat) (first second : Text) :
    depthAfter depth (first ++ second) = depthAfter (depthAfter depth first) second :=
  List.foldl_append

theorem piecesFrom_ne_nil (separator : Option Char) (depth : Nat) (text : Text) :
    piecesFrom separator depth text ≠ [] := by
  induction text generalizing depth with
  | nil => simp [piecesFrom]
  | cons c rest ih =>
    rw [piecesFrom]
    split
    · simp
    · simpa [List.modifyHead_eq_nil_iff] using ih (step depth c)

end ShaderInterface.Brackets
