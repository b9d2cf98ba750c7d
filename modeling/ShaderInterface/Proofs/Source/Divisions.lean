import ShaderInterface.Proofs.Source.Spans

set_option autoImplicit false

/-!
How lines divide at their data blocks: some lines in front, then one block after the other, each with
the lines up to the next. Lines that divide do so in one way, and the data blocks that are read are
those of the division; all other lines are refused. The search gets there in no more turns than
there are lines.
-/
namespace ShaderInterface.SourceLines

/-- A data block, and the lines behind it that open no other. -/
@[ext] structure BlockSpan where
  opening : Text
  inside : List Text
  closing : Text
  behind : List Text
  opens : opensData opening = true
  between : ∀ line ∈ inside, closesData line = false ∧ opensData line = false
  closes : closesData closing = true
  plain : ∀ line ∈ behind, opensData line = false

/-- Lines that open no data block, then data blocks. -/
@[ext] structure Division where
  front : List Text
  spans : List BlockSpan
  plain : ∀ line ∈ front, opensData line = false

def BlockSpan.lines (span : BlockSpan) : List Text :=
  span.opening :: (span.inside ++ span.closing :: span.behind)

namespace Division

def lines (division : Division) : List Text :=
  division.front ++ division.spans.flatMap BlockSpan.lines

def blocks (division : Division) : List (List Text) := division.spans.map BlockSpan.inside

end Division

variable {lines front other : List Text} {spans others : List BlockSpan}

/-! ## One division -/

/-- The first line of a kind, and what stands in front of it and behind it, are determined. -/
theorem first_unique {p : Text → Bool} {before before' behind behind' : List Text} {line line' : Text}
    (earlier : ∀ other ∈ before, p other = false) (here : p line = true)
    (earlier' : ∀ other ∈ before', p other = false) (here' : p line' = true)
    (same : before ++ line :: behind = before' ++ line' :: behind') :
    before = before' ∧ line = line' ∧ behind = behind' := by
  have found : (before ++ line :: behind).findIdx? p = some before.length :=
    findIdx?_eq_some_iff_append.2 ⟨before, line, behind, rfl, rfl, here, earlier⟩
  have found' : (before ++ line :: behind).findIdx? p = some before'.length :=
    findIdx?_eq_some_iff_append.2 ⟨before', line', behind', same, rfl, here', earlier'⟩
  have lengths : before.length = before'.length := Option.some.inj (found.symm.trans found')
  obtain ⟨fronts, rests⟩ := List.append_inj same lengths
  obtain ⟨lines, behinds⟩ := List.cons.inj rests
  exact ⟨fronts, lines, behinds⟩

/-- The lines in front of the first block are those up to the first that opens one. -/
theorem takeWhile_front (plain : ∀ line ∈ front, opensData line = false) (spans : List BlockSpan) :
    (front ++ spans.flatMap BlockSpan.lines).takeWhile (fun line => !opensData line) = front := by
  rw [List.takeWhile_append_of_pos fun line member => by simp [plain line member]]
  cases spans with
  | nil => simp
  | cons span rest => simp [BlockSpan.lines, span.opens]

theorem spans_unique (plain : ∀ line ∈ front, opensData line = false)
    (plain' : ∀ line ∈ other, opensData line = false)
    (same : front ++ spans.flatMap BlockSpan.lines = other ++ others.flatMap BlockSpan.lines) :
    front = other ∧ spans = others := by
  -- along the blocks, where the lines behind one are the front of the next
  induction spans generalizing front other others with
  | nil =>
    have fronts : front = other := by
      rw [← takeWhile_front plain [], same, takeWhile_front plain' others]
    subst fronts
    refine ⟨rfl, ?_⟩
    cases others with
    | nil => rfl
    | cons span rest => simp [BlockSpan.lines] at same
  | cons span rest ih =>
    have fronts : front = other := by
      rw [← takeWhile_front plain (span :: rest), same, takeWhile_front plain' others]
    subst fronts
    refine ⟨rfl, ?_⟩
    have spansSame := List.append_cancel_left same
    cases others with
    | nil => simp [BlockSpan.lines] at spansSame
    | cons span' rest' =>
      simp only [List.flatMap_cons, BlockSpan.lines, List.cons_append, List.append_assoc,
        List.cons.injEq] at spansSame
      obtain ⟨openings, bodies⟩ := spansSame
      obtain ⟨insides, closings, behinds⟩ := first_unique
        (fun line member => (span.between line member).1) span.closes
        (fun line member => (span'.between line member).1) span'.closes bodies
      obtain ⟨behindSame, restSame⟩ := ih span.plain span'.plain behinds
      rw [BlockSpan.ext openings insides closings behindSame, restSame]

theorem Division.unique {first second : Division} (same : first.lines = second.lines) :
    first = second := by
  obtain ⟨fronts, spans⟩ := spans_unique first.plain second.plain same
  exact Division.ext fronts spans

/-! ## What is read -/

theorem HasBlocks.exists_division {blocks : List (List Text)} (has : HasBlocks lines blocks) :
    ∃ division : Division, division.lines = lines ∧ division.blocks = blocks := by
  induction has with
  | nil => exact ⟨⟨[], [], nofun⟩, rfl, rfl⟩
  | @skip line rest blocks plain _ ih =>
    obtain ⟨division, rfl, rfl⟩ := ih
    exact ⟨⟨line :: division.front, division.spans,
      List.forall_mem_cons.2 ⟨plain, division.plain⟩⟩, rfl, rfl⟩
  | @block opening closing inside rest blocks opens between closes _ ih =>
    obtain ⟨division, rfl, rfl⟩ := ih
    refine ⟨⟨[], ⟨opening, inside, closing, division.front, opens, between, closes,
      division.plain⟩ :: division.spans, nofun⟩, ?_, rfl⟩
    simp [Division.lines, BlockSpan.lines]

theorem BlockSpan.hasBlocks (span : BlockSpan) : HasBlocks span.lines [span.inside] :=
  .block span.opens span.between span.closes (.of_plain span.plain)

theorem Division.hasBlocks (division : Division) : HasBlocks division.lines division.blocks := by
  have spans : HasBlocks (division.spans.flatMap BlockSpan.lines) division.blocks := by
    unfold Division.blocks
    induction division.spans with
    | nil => exact .nil
    | cons span rest ih => exact span.hasBlocks.append ih
  exact (HasBlocks.of_plain division.plain).append spans

/-- A refusal names a line that opens a data block, either one that nothing closes or one inside
another block. -/
theorem exists_of_dataBlocksFrom_error {above : Nat} {error : ShaderError}
    (failed : dataBlocksFrom above lines = .error error) :
    ∃ index line, lines[index]? = some line ∧ opensData line = true ∧
      (error = .unclosedBlock (above + index + 1) ∨ error = .nestedBlock (above + index + 1)) := by
  induction above, lines using dataBlocksFrom.induct generalizing error with
  | case1 above =>
    rw [dataBlocksFrom] at failed
    cases failed
  | case2 above line rest opens unclosed =>
    rw [dataBlocksFrom, if_pos opens, unclosed] at failed
    cases failed
    exact ⟨0, line, rfl, opens, .inl rfl⟩
  | case3 above line rest opens size closed inner nested =>
    rw [dataBlocksFrom, if_pos opens, closed] at failed
    simp only [nested] at failed
    cases failed
    obtain ⟨before, again, behind, taken, rfl, opensAgain, -⟩ :=
      findIdx?_eq_some_iff_append.1 nested
    refine ⟨before.length + 1, again, ?_, opensAgain, .inr ?_⟩
    · rw [List.getElem?_cons_succ, ← List.take_append_drop size rest, taken, List.append_assoc]
      simp
    · rw [Nat.add_assoc above, Nat.add_assoc above]
  | case4 above line rest opens size closed flat ih =>
    rw [dataBlocksFrom, if_pos opens, closed] at failed
    simp only [flat] at failed
    obtain ⟨index, again, here, opensAgain, shown⟩ := ih (Fallible.map_eq_error_iff.1 failed)
    have number : above + size + 2 + index + 1 = above + (size + 2 + index) + 1 := by omega
    rw [number] at shown
    refine ⟨size + 2 + index, again, ?_, opensAgain, shown⟩
    rw [← here, List.getElem?_drop, show size + 2 + index = size + 1 + index + 1 by omega,
      List.getElem?_cons_succ]
  | case5 above line rest plain ih =>
    rw [dataBlocksFrom, if_neg plain] at failed
    obtain ⟨index, again, here, opensAgain, shown⟩ := ih failed
    have number : above + 1 + index + 1 = above + (index + 1) + 1 := by omega
    rw [number] at shown
    exact ⟨index + 1, again, here, opensAgain, shown⟩

/-! ## The search, turn by turn -/

/-- The search for data blocks as a loop: where it stands, and what it has found so far. It gives no
answer when it is not done within the turns. -/
def search (lines : List Text) :
    (turns index : Nat) → (found : List (List Text)) →
      Option (Except ShaderError (List (List Text)))
  | 0, _, _ => none
  | turns + 1, index, found =>
      match lines[index]? with
      | none => some (.ok found)
      | some line =>
          if opensData line then
            match find? "#end" (lines.drop (index + 1)) with
            | none => some (.error (.unclosedBlock (index + 1)))
            | some size =>
                let inside := (lines.drop (index + 1)).take size
                match inside.findIdx? opensData with
                | some inner => some (.error (.nestedBlock (index + inner + 2)))
                | none => search lines turns (index + size + 2) (found ++ [inside])
          else search lines turns (index + 1) found

theorem search_eq {turns index : Nat} (within : index ≤ lines.length)
    (enough : lines.length < turns + index) (found : List (List Text)) :
    search lines turns index found =
      some ((dataBlocksFrom index (lines.drop index)).map (found ++ ·)) := by
  -- every turn that goes on moves the index, so that the turns left are enough for the lines left
  induction turns generalizing index found with
  | zero => omega
  | succ turns ih =>
    rw [search]
    cases here : lines[index]? with
    | none =>
      rw [List.drop_eq_nil_of_le (List.getElem?_eq_none_iff.1 here), dataBlocksFrom]
      simp [Except.map]
    | some line =>
      obtain ⟨inRange, rfl⟩ := List.getElem?_eq_some_iff.1 here
      rw [List.drop_eq_getElem_cons inRange, dataBlocksFrom]
      simp only
      by_cases opens : opensData lines[index] = true
      · rw [if_pos opens, if_pos opens]
        have searched : find? "#end" (lines.drop (index + 1)) =
            (lines.drop (index + 1)).findIdx? closesData := rfl
        rw [searched]
        cases closed : (lines.drop (index + 1)).findIdx? closesData with
        | none => rfl
        | some size =>
          simp only
          cases flat : ((lines.drop (index + 1)).take size).findIdx? opensData with
          | some inner => rfl
          | none =>
            have before : size < (lines.drop (index + 1)).length :=
              (List.findIdx?_eq_some_iff_getElem.1 closed).1
            rw [List.length_drop] at before
            have onward := @ih (index + size + 2) (by omega) (by omega)
              (found ++ [(lines.drop (index + 1)).take size])
            have dropped : (lines.drop (index + 1)).drop (size + 1) =
                lines.drop (index + size + 2) := by
              rw [List.drop_drop]
              congr 1
              omega
            simp only [dropped, onward]
            cases dataBlocksFrom (index + size + 2) (lines.drop (index + size + 2)) <;>
              simp [Except.map]
      · rw [if_neg opens, if_neg opens]
        exact ih (by omega) (by omega) found

/-- The lines whose data blocks can be read are those that divide. They do so in one way, whose
blocks are read; other lines are refused at a line that opens a block. The search ends within one
turn for each line and one for their end. -/
theorem dataBlocks_accepts (lines : List Text) :
    ((∃ blocks, dataBlocks lines = .ok blocks) ↔ ∃ division : Division, division.lines = lines) ∧
      (∀ division : Division, division.lines = lines →
        dataBlocks lines = .ok division.blocks ∧
          ∀ other : Division, other.lines = lines → other = division) ∧
      ((¬∃ division : Division, division.lines = lines) →
        ∃ index line, lines[index]? = some line ∧ opensData line = true ∧
          (dataBlocks lines = .error (.unclosedBlock (index + 1)) ∨
            dataBlocks lines = .error (.nestedBlock (index + 1)))) ∧
      search lines (lines.length + 1) 0 [] = some (dataBlocks lines) := by
  have reads (division : Division) (divides : division.lines = lines) :
      dataBlocks lines = .ok division.blocks := by
    rw [← divides]
    exact dataBlocks_eq_ok_iff.2 division.hasBlocks
  have divides {blocks : List (List Text)} (success : dataBlocks lines = .ok blocks) :
      ∃ division : Division, division.lines = lines := by
    obtain ⟨division, same, -⟩ := (dataBlocks_eq_ok_iff.1 success).exists_division
    exact ⟨division, same⟩
  refine ⟨⟨fun ⟨_, success⟩ => divides success, fun ⟨division, same⟩ => ⟨_, reads division same⟩⟩,
    fun division same => ⟨reads division same, fun other again => ?_⟩, fun undivided => ?_, ?_⟩
  · exact Division.unique (again.trans same.symm)
  · cases outcome : dataBlocks lines with
    | ok blocks => exact absurd (divides outcome) undivided
    | error error =>
      obtain ⟨index, line, here, opens, shown⟩ := exists_of_dataBlocksFrom_error outcome
      refine ⟨index, line, here, opens, ?_⟩
      simpa using shown
  · rw [search_eq (Nat.zero_le _) (by omega) [], List.drop_zero, dataBlocks]
    cases dataBlocksFrom 0 lines <;> rfl

end ShaderInterface.SourceLines
