import ShaderInterface.Proofs.Brackets.Pieces

set_option autoImplicit false

namespace ShaderInterface.Brackets

variable {separator : Char} {depth : Nat} {text first : Text} {others : List Text}

/-- The first piece is one piece by itself. It is all of the text, or it ends at a separator with no
bracket open in front of it, and the other pieces are those behind that separator. -/
theorem first_of_piecesFrom (cut : piecesFrom (some separator) depth text = first :: others) :
    piecesFrom (some separator) depth first = [first] ∧
      (text = first ∧ others = [] ∨
        ∃ rest, text = first ++ separator :: rest ∧ depthAfter depth first = 0 ∧
          pieces (some separator) rest = others) := by
  induction text generalizing depth first with
  | nil =>
    obtain ⟨rfl, rfl⟩ : [] = first ∧ [] = others := by simpa [piecesFrom] using cut
    exact ⟨rfl, .inl ⟨rfl, rfl⟩⟩
  | cons c rest ih =>
    rw [piecesFrom] at cut
    split at cut
    · next divides =>
      obtain ⟨same, rfl, -⟩ := divides
      obtain rfl : separator = c := Option.some.inj same
      obtain ⟨rfl, behind⟩ := List.cons_eq_cons.1 cut
      exact ⟨rfl, .inr ⟨rest, rfl, rfl, behind⟩⟩
    · next joined =>
      -- the character stands in front of the first piece of the rest
      obtain ⟨tail, later, onward⟩ := List.exists_cons_of_ne_nil
        (piecesFrom_ne_nil (some separator) (step depth c) rest)
      rw [onward, List.modifyHead_cons] at cut
      obtain ⟨rfl, rfl⟩ := List.cons_eq_cons.1 cut
      obtain ⟨whole, ended⟩ := ih onward
      refine ⟨piecesFrom_cons_eq_self_iff.2 ⟨joined, whole⟩, ?_⟩
      rcases ended with ⟨rfl, rfl⟩ | ⟨behind, rfl, level, divided⟩
      · exact .inl ⟨rfl, rfl⟩
      · exact .inr ⟨behind, rfl, level, divided⟩

/-- A text is one piece exactly if a bracket is open in front of each separator in it. -/
theorem pieces_eq_self_iff (plain : isBracket separator = false) :
    pieces (some separator) text = [text] ↔
      ∀ left right, text = left ++ separator :: right → depthAfter 0 left ≠ 0 := by
  constructor
  · rintro whole left right rfl level
    -- there would be a piece on either side of that separator
    rw [pieces, piecesFrom_append_cons plain level] at whole
    have front := List.length_pos_of_ne_nil (piecesFrom_ne_nil (some separator) 0 left)
    have behind := List.length_pos_of_ne_nil (piecesFrom_ne_nil (some separator) 0 right)
    have count := congrArg List.length whole
    rw [List.length_append, List.length_singleton] at count
    omega
  · intro inside
    obtain ⟨first, others, cut⟩ :=
      List.exists_cons_of_ne_nil (piecesFrom_ne_nil (some separator) 0 text)
    obtain ⟨whole, ⟨rfl, -⟩ | ⟨rest, divided, level, -⟩⟩ := first_of_piecesFrom cut
    · exact whole
    · exact absurd level (inside first rest divided)

/-- These facts tell the first piece and the others: a text of which they hold is cut into them. -/
theorem pieces_eq_cons_iff (plain : isBracket separator = false) :
    pieces (some separator) text = first :: others ↔
      pieces (some separator) first = [first] ∧
        (text = first ∧ others = [] ∨
          ∃ rest, text = first ++ separator :: rest ∧ depthAfter 0 first = 0 ∧
            pieces (some separator) rest = others) := by
  constructor
  · exact first_of_piecesFrom
  · rintro ⟨whole, ⟨rfl, rfl⟩ | ⟨rest, rfl, level, rfl⟩⟩
    · exact whole
    · exact Undivided.pieces_append_cons ⟨whole, level⟩ plain rest

/-- The pieces of a text are the list of texts that make it up with the separator between them, each
of which is one piece, and of which only the last may leave a bracket open. Read forwards, a cut
loses nothing and does not cut a piece again; read backwards, joined pieces are found again. -/
theorem pieces_eq_iff (plain : isBracket separator = false) (text : Text) (parts : List Text) :
    pieces (some separator) text = parts ↔
      parts ≠ [] ∧ [separator].intercalate parts = text ∧
        (∀ part ∈ parts, pieces (some separator) part = [part]) ∧
        ∀ part ∈ parts.dropLast, depthAfter 0 part = 0 := by
  have present (rest : Text) : pieces (some separator) rest ≠ [] := piecesFrom_ne_nil _ _ _
  induction parts generalizing text with
  | nil => simp [present]
  | cons first others ih =>
    rw [pieces_eq_cons_iff plain]
    cases others with
    | nil => simp [present, and_comm, eq_comm (a := text)]
    | cons next later =>
      -- the text goes on behind the first piece, so a separator stands there
      simp only [ih, reduceCtorEq, and_false, false_or, List.intercalate_cons_cons,
        List.dropLast_cons_cons, List.forall_mem_cons, List.append_assoc, List.singleton_append]
      constructor
      · rintro ⟨whole, rest, rfl, level, -, rfl, wholes, levels⟩
        exact ⟨by simp, rfl, ⟨whole, wholes⟩, level, levels⟩
      · rintro ⟨-, rfl, ⟨whole, wholes⟩, level, levels⟩
        exact ⟨whole, _, rfl, level, by simp, rfl, wholes, levels⟩

/-- Closers without an opener, a piece without a character and a bracket that stays open. -/
theorem pieces_eq_iff_unmatched :
    let text : Text := "far>),mix(near, far),,array<f32, 4"
    let parts : List Text := ["far>)", "mix(near, far)", "", "array<f32, 4"].map String.toList
    isBracket ',' = false ∧
      (parts ≠ [] ∧ [','].intercalate parts = text ∧
        (∀ part ∈ parts, pieces (some ',') part = [part]) ∧
        ∀ part ∈ parts.dropLast, depthAfter 0 part = 0) ∧
      pieces (some ',') text = parts ∧ depthAfter 0 text = 1 := by
  intro text parts
  have tiled : parts ≠ [] ∧ [','].intercalate parts = text ∧
      (∀ part ∈ parts, pieces (some ',') part = [part]) ∧
      ∀ part ∈ parts.dropLast, depthAfter 0 part = 0 := by
    decide +kernel
  exact ⟨by decide, tiled, (pieces_eq_iff (by decide) text parts).2 tiled, by decide +kernel⟩

end ShaderInterface.Brackets
