import ShaderInterface.Proofs.Declaration.Printing

set_option autoImplicit false

namespace ShaderInterface.Printed

open Text (AllBlank beside)

variable {gap before behind : Text}

theorem Member.text_eq (member : Member) :
    member.text = member.name.text ++ ':' :: ' ' :: member.type.text := by
  rw [Member.text, Text.beside_of_ne_nil (by simp) member.type.present]
  simp

theorem Member.text_ne_nil (member : Member) : member.text ≠ [] := by
  simp [member.text_eq]

theorem membersText_ne_nil (member : Member) (rest : List Member) :
    membersText (member :: rest) ≠ [] := by
  cases rest with
  | nil => exact member.text_ne_nil
  | cons next later => exact Text.beside_ne_nil (by simp)

theorem Member.getLast?_text (member : Member) : member.text.getLast?.any (· == ',') = false := by
  have ending := Text.getLast?_of_endsType member.type.balanced
  obtain ⟨c, last⟩ := Option.isSome_iff_exists.1 (List.getLast?_isSome.2 member.type.present)
  rw [last] at ending
  rw [member.text_eq, List.getLast?_append_of_ne_nil _ (by simp), List.getLast?_cons_cons,
    List.getLast?_cons_of_ne_nil member.type.present, last]
  exact ending

theorem not_mem_padded {text : Text} {mark : Char} (blankBefore : AllBlank before)
    (blankBehind : AllBlank behind) (absent : mark ∉ text) (solid : Text.isBlank mark = false) :
    mark ∉ before ++ text ++ behind := by
  simp only [List.mem_append, not_or]
  exact ⟨⟨blankBefore.not_mem solid, absent⟩, blankBehind.not_mem solid⟩

/-- A member states its field, with blanks around it or not. -/
theorem Member.ofText? (member : Member) (blankBefore : AllBlank before)
    (blankBehind : AllBlank behind) :
    Field.ofText? (before ++ member.text ++ behind) = some member.field := by
  have noAt : '@' ∉ before ++ member.text ++ behind :=
    not_mem_padded blankBefore blankBehind (Text.not_mem_of_chars member.plain.chars (by decide))
      (by decide)
  have trimmed : Text.trim (before ++ member.text ++ behind) = member.text :=
    Text.trim_padded member.plain.tidy blankBefore blankBehind
  have noColon : ':' ∉ member.name.text :=
    Text.not_mem_of_chars member.name.named (by decide)
  have typeRead : Text.squeeze (' ' :: member.type.text) = member.type.text := by
    have solid := Text.squeeze_of_solid member.type.solid
    rw [Text.squeeze] at solid ⊢
    rw [List.filter_cons_of_neg (by decide), solid]
  rw [Field.ofText?, Text.strip_of_not_mem noAt, trimmed,
    Text.dropEndWhile_eq_self member.getLast?_text, Text.trim_of_tidy member.plain.tidy,
    member.text_eq, Text.cutAt?_append_cons noColon]
  simp [Text.words_of_solid member.name.solid member.name.present, typeRead, member.type.present,
    Member.field]

theorem undivided_of_allBlank (blank : AllBlank gap) : Brackets.Undivided ',' gap :=
  .of_chars blank (by decide)

theorem Member.undivided (member : Member) : Brackets.Undivided ',' member.text := by
  have colon : Brackets.Undivided ',' [':', ' '] := ⟨by decide, by decide⟩
  have parts := ((Brackets.Undivided.of_chars member.name.named (by decide)).append colon).append
    (Text.undivided_of_endsType member.type.balanced)
  rw [member.text_eq]
  simpa using parts

section Reading

variable {d : Declarations} {entry : TableEntry} {focus : Focus}

theorem addPart_blank (r : Reading) (blank : AllBlank gap) : r.addPart gap = .done r := by
  rw [Reading.addPart, if_pos (Text.trim_of_allBlank blank)]

/-- What was put last is there to get fields. -/
theorem owner_put (focused : focus.owner? = some (entry.kind, entry.name)) :
    (Reading.mk (d.put entry) focus).owner = .ok (entry.kind, entry.name) := by
  have declared : (d.put entry).declares entry.kind entry.name = true :=
    Declarations.declares_put.2 (Or.inl ⟨rfl, rfl⟩)
  simp only [Reading.owner, focused, declared, if_true]

/-- A member under the name that was put last becomes the last field there. -/
theorem addPart_member (focused : focus.owner? = some (entry.kind, entry.name)) (member : Member)
    (blankBefore : AllBlank before) (blankBehind : AllBlank behind) :
    (Reading.mk (d.put entry) focus).addPart (before ++ member.text ++ behind) =
      .done ⟨d.put (entry.addFields [member.field]), focus⟩ := by
  have present : ¬Text.trim (before ++ member.text ++ behind) = [] := by
    rw [Text.trim_padded member.plain.tidy blankBefore blankBehind]
    exact member.text_ne_nil
  simp only [Reading.addPart, if_neg present, member.ofText? blankBefore blankBehind,
    Reading.addField, owner_put focused, Declarations.addField_put]

theorem addParts_whole (r : Reading) {part : Text} (whole : Brackets.Undivided ',' part) :
    r.addParts (Brackets.pieces (some ',') part) = r.addPart part := by
  rw [Brackets.pieces, whole.whole]
  exact Step.andThen_done_right _

theorem addParts_comma (r : Reading) {part : Text} (whole : Brackets.Undivided ',' part)
    (rest : Text) :
    r.addParts (Brackets.pieces (some ',') (part ++ ',' :: rest)) =
      (r.addPart part).andThen fun next => next.addParts (Brackets.pieces (some ',') rest) := by
  rw [whole.pieces_append_cons (by decide)]
  rfl

/-- A comma behind the last part adds nothing to the row. -/
theorem addParts_ending (comma : Bool) (blankBehind : AllBlank behind) :
    ∃ gap, AllBlank gap ∧ ∀ (r : Reading) (part : Text), Brackets.Undivided ',' part →
      r.addParts (Brackets.pieces (some ',') (part ++ ((if comma then [','] else []) ++ behind))) =
        r.addPart (part ++ gap) := by
  have plain := undivided_of_allBlank blankBehind
  cases comma with
  | false =>
    refine ⟨behind, blankBehind, fun r part whole => ?_⟩
    exact addParts_whole r (whole.append plain)
  | true =>
    refine ⟨[], AllBlank.nil, fun r part whole => ?_⟩
    have nothing : (fun next : Reading => next.addParts (Brackets.pieces (some ',') behind)) =
        Step.done := by
      funext next
      rw [addParts_whole next plain, addPart_blank next blankBehind]
    calc r.addParts (Brackets.pieces (some ',') (part ++ ',' :: behind))
      _ = (r.addPart part).andThen Step.done := by rw [addParts_comma r whole, nothing]
      _ = r.addPart (part ++ []) := by rw [Step.andThen_done_right, List.append_nil]

/-- A row adds its fields in order. -/
theorem addParts_row (focused : focus.owner? = some (entry.kind, entry.name)) (row : Row)
    (blankBefore : AllBlank before) (blankBehind : AllBlank behind) :
    (Reading.mk (d.put entry) focus).addParts
        (Brackets.pieces (some ',') (before ++ row.text ++ behind)) =
      .done ⟨d.put (entry.addFields row.fields), focus⟩ := by
  obtain ⟨members, comma⟩ := row
  obtain ⟨gap, blankGap, ending⟩ := addParts_ending comma blankBehind
  have plain {text : Text} (blank : AllBlank text) := undivided_of_allBlank blank
  rw [Row.text, ← List.append_assoc, List.append_assoc]
  unfold Row.fields
  -- each member moves the entry on; how the last part ends is settled by `ending`
  induction members generalizing entry before with
  | nil =>
    have blank : AllBlank (before ++ gap) := List.forall_mem_append.2 ⟨blankBefore, blankGap⟩
    rw [membersText, List.append_nil, ending _ _ (plain blankBefore), addPart_blank _ blank]
    simp
  | cons member rest ih =>
    have whole := (plain blankBefore).append member.undivided
    cases rest with
    | nil =>
      rw [membersText, ending _ _ whole, addPart_member focused member blankBefore blankGap]
      rfl
    | cons next later =>
      have kept : focus.owner? =
          some ((entry.addFields [member.field]).kind, (entry.addFields [member.field]).name) := by
        simpa using focused
      have onward := ih kept Text.allBlank_blank
      have read := addPart_member (d := d) focused member blankBefore AllBlank.nil
      have apart (ending : Text) : before ++ membersText (member :: next :: later) ++ ending =
          before ++ member.text ++ ',' :: ([' '] ++ membersText (next :: later) ++ ending) := by
        rw [membersText, Text.beside_of_ne_nil (by simp) (membersText_ne_nil next later)]
        simp
      rw [List.append_nil] at read
      rw [apart, addParts_comma _ whole, read, Step.andThen_done_left, onward,
        TableEntry.addFields_addFields]
      rfl

/-- A row adds its fields, and ends the body when no row follows it. -/
theorem readBody_row (focused : focus.owner? = some (entry.kind, entry.name)) (row : Row)
    (rest : List Row) (blankBefore : AllBlank before) :
    (Reading.mk (d.put entry) focus).readBody (before ++ closeBefore rest row.text) =
      .done ⟨d.put (entry.addFields row.fields), if rest.isEmpty then .idle else focus⟩ := by
  have noBrace {behind : Text} (blankBehind : AllBlank behind) :
      '\x7d' ∉ before ++ row.text ++ behind :=
    not_mem_padded blankBefore blankBehind (Text.not_mem_of_chars row.plain.chars (by decide))
      (by decide)
  cases rest with
  | nil =>
    obtain ⟨gap, blankGap, closed⟩ := Text.beside_eq row.text ['\x7d']
    have line : before ++ closeBefore [] row.text = before ++ row.text ++ gap ++ '\x7d' :: [] := by
      simp [closeBefore, closed]
    have read := addParts_row (d := d) focused row blankBefore blankGap
    simp only [Reading.readBody, line, Text.cutAt?_append_cons (noBrace blankGap), read,
      Step.andThen_done_left]
    rfl
  | cons next later =>
    have unclosed : Text.cutAt? '\x7d' (before ++ row.text) = none := by
      have absent := noBrace AllBlank.nil
      rw [List.append_nil] at absent
      exact Text.cutAt?_eq_none_iff.2 absent
    have read := addParts_row (d := d) focused row blankBefore AllBlank.nil
    rw [List.append_nil] at read
    have line : closeBefore (next :: later) row.text = row.text := rfl
    simp only [Reading.readBody, line, unclosed, read]
    rfl

/-- A line without a comment and outer blanks is read as it stands. -/
theorem readLine_of_tidy (r : Reading) {line : Text} (noComment : '/' ∉ line)
    (tidy : Text.Tidy line) : r.readLine line = r.readStatement line := by
  rw [Reading.readLine, Text.dropLineComment_of_not_mem noComment, Text.trim_of_tidy tidy]

theorem readLine_of_part (r : Reading) {line : Text} (part : Text.Part isLineChar line) :
    r.readLine line = r.readStatement line :=
  readLine_of_tidy r (Text.not_mem_of_chars part.chars (by decide)) part.tidy

theorem readStatement_body (d : Declarations) (kind : DeclarationKind) (name line : Text) :
    (Reading.mk d (.body kind name)).readStatement line =
      (Reading.mk d (.body kind name)).readBody line := by
  rw [Reading.readStatement]
  split
  · next empty =>
    rw [empty]
    rfl
  · rfl

/-- The lines of a body, from behind its opening brace on, add all its fields and end it. -/
theorem readLines_body (entry : TableEntry) (body : Body) (blankBefore : AllBlank before) :
    ((Reading.mk (d.put entry) (.body entry.kind entry.name)).readBody
        (before ++ closeBefore body.rest body.first.text)).andThen
          (fun next => next.readLines (rowLines body.rest)) =
      .done ⟨d.put (entry.addFields body.fields), .idle⟩ := by
  obtain ⟨first, rest⟩ := body
  unfold Body.fields
  -- the row that is read becomes the first one of the remaining body, under the entry so far
  induction rest generalizing entry first before with
  | nil =>
    rw [readBody_row rfl first [] blankBefore, Step.andThen_done_left]
    simp [rowLines, Reading.readLines]
  | cons row later ih =>
    have part : Text.Part isLineChar (closeBefore later row.text) :=
      closeBefore_part later (row.plain.mono isLineChar_of_isRowChar).toPart
    have onward := ih (entry.addFields first.fields) AllBlank.nil row
    rw [TableEntry.addFields_addFields, TableEntry.kind_addFields, TableEntry.name_addFields,
      List.nil_append] at onward
    rw [readBody_row rfl first (row :: later) blankBefore, Step.andThen_done_left, rowLines,
      Reading.readLines, readLine_of_part _ part]
    simp only [List.isEmpty_cons, Bool.false_eq_true, if_false, readStatement_body]
    exact onward

/-- The opening line of a body, from its brace on, is its first row with blanks in front. -/
theorem closeBefore_beside (rest : List Row) (opening line : Text) :
    ∃ gap, AllBlank gap ∧
      closeBefore rest (beside opening line) = opening ++ (gap ++ closeBefore rest line) := by
  unfold closeBefore
  split
  · rw [Text.beside_assoc]
    obtain ⟨gap, blank, apart⟩ := Text.beside_eq opening (beside line ['\x7d'])
    exact ⟨gap, blank, by rw [apart, List.append_assoc]⟩
  · obtain ⟨gap, blank, apart⟩ := Text.beside_eq opening line
    exact ⟨gap, blank, by rw [apart, List.append_assoc]⟩

end Reading

end ShaderInterface.Printed
